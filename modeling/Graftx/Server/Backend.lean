import Graftx.Handles.Laws
import Graftx.Protocol.Core

/-! The backend interface and the few shapes its request arms take. An arm may fail
after it has changed the tables, so an answer always carries the state it leaves. -/
namespace Graftx.Server
open Graftx.Protocol Graftx.Handles

/-- The reply body or the error, and the state left behind in either case. -/
abbrev Answer (B : Type) := Except ProtocolError Bytes × B

/-- Handle tables, one for each family of objects, each with its kind byte. -/
class Tables (B : Type) where
  Family : Type
  decFamily : DecidableEq Family
  Object : Family → Type
  kind : Family → UInt8
  kind_inj : ∀ f g, kind f = kind g → f = g
  empty : B
  table : B → (f : Family) → HandleTable (Object f)
  setTable : B → (f : Family) → HandleTable (Object f) → B
  table_empty : ∀ f, table empty f = HandleTable.new
  table_set_self : ∀ b f t, table (setTable b f t) f = t
  table_set_ne : ∀ b f t g, g ≠ f → table (setTable b f t) g = table b g

export Tables (Family Object kind table setTable)

instance {B : Type} [Tables B] : DecidableEq (Family B) := Tables.decFamily

def saturatingSucc (n : UInt32) : UInt32 := if n = UInt32.ofNat (2 ^ 32 - 1) then n else n + 1

theorem toNat_saturatingSucc (n : UInt32) :
    (saturatingSucc n).toNat = min (2 ^ 32 - 1) (n.toNat + 1) := by
  have hlt := n.toNat_lt
  have hmax : (UInt32.ofNat (2 ^ 32 - 1)).toNat = 2 ^ 32 - 1 := by decide
  rw [saturatingSucc]
  split
  · rename_i h
    rw [h, hmax]
    omega
  · rename_i h
    have hne : n.toNat ≠ 2 ^ 32 - 1 := fun he => h (UInt32.toNat_inj.mp (he.trans hmax.symm))
    rw [UInt32.toNat_add, UInt32.toNat_one, Nat.mod_eq_of_lt (by omega)]
    omega

/-- The error of every call that is not implemented or names an unknown object. -/
def refuse {B : Type} (b : B) (opcode : UInt32) : Answer B := (.error (.unknownOpcode opcode), b)

section Arms
variable {B : Type} [Tables B]

def create (b : B) (f : Family B) (state : Object f) (response : Handle → Bytes) : Answer B :=
  let (h, t) := (table b f).insert (kind f) state
  (.ok (response h), setTable b f t)

def destroy (b : B) (opcode : UInt32) (f : Family B) (h : Handle) : Answer B :=
  match (table b f).remove h with
  | (none, _) => refuse b opcode
  | (some _, t) => (.ok [], setTable b f t)

/-- Change the object `h` names in place. The change may itself decline. -/
def update (b : B) (opcode : UInt32) (f : Family B) (h : Handle)
    (change : Object f → Option (Object f × Bytes)) : Answer B :=
  match (table b f).getMut h with
  | none => refuse b opcode
  | some (state, put) =>
    match change state with
    | none => refuse b opcode
    | some (state', reply) => (.ok reply, setTable b f (put state'))

theorem table_setTable (b : B) (f g : Family B) (t : HandleTable (Object f)) :
    (∃ h : g = f, table (setTable b f t) g = h ▸ t) ∨
      g ≠ f ∧ table (setTable b f t) g = table b g := by
  by_cases h : g = f
  · cases h
    exact .inl ⟨rfl, Tables.table_set_self b f t⟩
  · exact .inr ⟨h, Tables.table_set_ne b f t g h⟩

end Arms

/-- A handler for one API namespace. Every backend refuses other namespaces first,
then decodes the body its opcode calls for, then acts. -/
class Backend (B : Type) extends Tables B where
  api : ApiId
  Request : Type
  decode : UInt32 → Bytes → Except ProtocolError Request
  exec : B → UInt32 → Request → Answer B

export Backend (Request api decode exec)

section Handle
variable {B : Type} [Backend B]

def request (B : Type) [Backend B] (opcode : UInt32) (body : Bytes) :
    Except ProtocolError (Request B) :=
  if opcodeApi opcode ≠ (api B).byte then .error (.unknownOpcode opcode)
  else decode opcode body

def handle (b : B) (opcode : UInt32) (body : Bytes) : Answer B :=
  match request B opcode body with
  | .error e => (.error e, b)
  | .ok req => exec b opcode req

theorem handle_of_request_ok (b : B) (opcode : UInt32) (body : Bytes) (r : Request B)
    (h : request B opcode body = .ok r) : handle b opcode body = exec b opcode r := by
  rw [handle, h]

theorem handle_of_request_error (b : B) (opcode : UInt32) (body : Bytes) (e : ProtocolError)
    (h : request B opcode body = .error e) : handle b opcode body = (.error e, b) := by
  rw [handle, h]

end Handle

def carried {F α : Type} (f : F) (decoded : Except ProtocolError α) (handle : α → Handle) :
    List (F × Handle) :=
  match decoded with
  | .ok x => [(f, handle x)]
  | .error _ => []

theorem carried_ok {F α : Type} (f : F) (decoded : Except ProtocolError α) (handle : α → Handle)
    (x : α) (h : decoded = .ok x) : carried f decoded handle = [(f, handle x)] := by
  rw [h]
  rfl

inductive Effect (F : Type) where
  | keep
  | create (f : F)
  | write (f : F) (h : Handle)
  | destroy (f : F) (h : Handle)

/-- What the answer to request `r` in state `b` may be, given the effect it is meant to
have. `returned` says which handles a reply hands out. -/
inductive Did {B R : Type} [Tables B] (returned : R → Bytes → List (Family B × Handle)) (b : B)
    (r : R) : Effect (Family B) → Answer B → Prop where
  | refused (eff : Effect (Family B)) (e : ProtocolError) : Did returned b r eff (.error e, b)
  | kept (reply : Bytes) (hr : returned r reply = []) : Did returned b r .keep (.ok reply, b)
  | created (f : Family B) (state : Object f) (response : Handle → Bytes)
      (hr : ∀ h, returned r (response h) = [(f, h)]) :
      Did returned b r (.create f) (create b f state response)
  | wrote (f : Family B) (h : Handle) (old new : Object f) (reply : Bytes)
      (hg : (table b f).get h = some old) (hr : returned r reply = []) :
      Did returned b r (.write f h)
        (.ok reply, setTable b f ((table b f).store h.slot.toNat new))
  | destroyed (f : Family B) (h : Handle) (old : Object f)
      (hg : (table b f).get h = some old) (hr : returned r [] = []) :
      Did returned b r (.destroy f h) (.ok [], setTable b f ((table b f).release h.slot.toNat))

/-- The named objects are live and the backend's further condition holds. -/
def admitted {B R : Type} [Tables B] (uses : B → R → List (Family B × Handle))
    (extra : B → R → Bool) (b : B) (r : R) : Bool :=
  (uses b r).all (fun u => (table b u.1).isLive u.2) && extra b r

/-- How the requests of a backend read, independently of its code: the objects each one
names and where it looks for them, what it asks of them beyond being live, what it then
does, and the handles its reply hands out. The last two fields say that the code agrees. -/
class Described (B : Type) [Backend B] where
  uses : B → Request B → List (Family B × Handle)
  extra : B → Request B → Bool
  effect : B → Request B → Effect (Family B)
  returned : Request B → Bytes → List (Family B × Handle)
  destroy_used : ∀ b r f h, effect b r = .destroy f h → (f, h) ∈ uses b r
  did : ∀ (b : B) (opcode : UInt32) (r : Request B),
    Did returned b r (effect b r) (exec b opcode r)
  ok_iff : ∀ (b : B) (opcode : UInt32) (r : Request B),
    (∃ reply, (exec b opcode r).1 = .ok reply) ↔ admitted uses extra b r

export Described (uses extra effect returned)

def admits {B : Type} [Backend B] [Described B] (b : B) (r : Request B) : Bool :=
  admitted uses extra b r

theorem live_of_admits {B : Type} [Backend B] [Described B] (b : B) (r : Request B)
    (h : admits b r) (u : Family B × Handle) (hu : u ∈ uses b r) : (table b u.1).isLive u.2 := by
  simp only [admits, admitted, Bool.and_eq_true, List.all_eq_true] at h
  exact h.1 u hu

@[simp] theorem refuse_ok {B : Type} (b : B) (opcode : UInt32) :
    (∃ reply, (refuse b opcode).1 = .ok reply) ↔ False := by
  simp [refuse]

@[simp] theorem guard_ok {B : Type} (b : B) (opcode : UInt32) (c : Prop) [Decidable c]
    (a : Answer B) : (∃ reply, (if c then refuse b opcode else a).1 = .ok reply) ↔
      ¬ c ∧ ∃ reply, a.1 = .ok reply := by
  split <;> simp [refuse, *]

section Shapes
variable {B R : Type} [Tables B] {returned : R → Bytes → List (Family B × Handle)} {b : B} {r : R}

theorem Did.refuse (eff : Effect (Family B)) (opcode : UInt32) :
    Did returned b r eff (refuse b opcode) := .refused eff _

theorem Did.destroy (f : Family B) (h : Handle) (opcode : UInt32) (hr : returned r [] = []) :
    Did returned b r (.destroy f h) (destroy b opcode f h) := by
  rw [Server.destroy]
  cases hg : (table b f).get h with
  | none =>
    rw [(table b f).remove_of_get_none h hg]
    exact .refuse _ opcode
  | some old =>
    rw [(table b f).remove_of_get_some h old hg]
    exact .destroyed f h old hg hr

theorem Did.update (f : Family B) (h : Handle) (opcode : UInt32)
    (change : Object f → Option (Object f × Bytes))
    (hr : ∀ old new reply, change old = some (new, reply) → returned r reply = []) :
    Did returned b r (.write f h) (update b opcode f h change) := by
  rw [Server.update]
  cases hm : (table b f).getMut h with
  | none => exact .refuse _ opcode
  | some p =>
    obtain ⟨old, put⟩ := p
    obtain ⟨hg, rfl⟩ := ((table b f).getMut_eq_some h old put).mp hm
    simp only
    cases hc : change old with
    | none => exact .refuse _ opcode
    | some q => exact .wrote f h old q.1 q.2 hg (hr old q.1 q.2 hc)

theorem Did.guard {eff : Effect (Family B)} {c : Prop} [Decidable c] {opcode : UInt32}
    {a : Answer B} (h : Did returned b r eff a) :
    Did returned b r eff (if c then Server.refuse b opcode else a) := by
  split
  · exact .refuse eff opcode
  · exact h

theorem Did.returned_of_create {f : Family B} {a : Answer B}
    (hd : Did returned b r (.create f) a) {reply : Bytes} (hok : a.1 = .ok reply) :
    ∃ h, returned r reply = [(f, h)] := by
  cases hd with
  | refused => cases hok
  | created f state response hr =>
    cases hok
    exact ⟨_, hr _⟩

@[simp] theorem create_ok (b : B) (f : Family B) (state : Object f) (response : Handle → Bytes) :
    (∃ reply, (create b f state response).1 = .ok reply) ↔ True := by
  simp [create]

@[simp] theorem destroy_ok (b : B) (opcode : UInt32) (f : Family B) (h : Handle) :
    (∃ reply, (destroy b opcode f h).1 = .ok reply) ↔ (table b f).isLive h := by
  rw [destroy, HandleTable.isLive]
  cases hg : (table b f).get h with
  | none =>
    rw [(table b f).remove_of_get_none h hg]
    simp [refuse]
  | some old =>
    rw [(table b f).remove_of_get_some h old hg]
    simp

@[simp] theorem update_ok (b : B) (opcode : UInt32) (f : Family B) (h : Handle)
    (change : Object f → Option (Object f × Bytes)) :
    (∃ reply, (update b opcode f h change).1 = .ok reply) ↔
      ((table b f).get h).any fun old => (change old).isSome := by
  rw [update]
  cases hm : (table b f).getMut h with
  | none =>
    rw [((table b f).getMut_eq_none h).mp hm]
    simp [refuse]
  | some p =>
    obtain ⟨old, put⟩ := p
    obtain ⟨hg, -⟩ := ((table b f).getMut_eq_some h old put).mp hm
    rw [hg]
    simp only [Option.any_some]
    cases hc : change old with
    | none => simp [refuse]
    | some q => simp

end Shapes
end Graftx.Server
