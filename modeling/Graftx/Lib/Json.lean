import Graftx.Lib.Numerals

/-! JSON texts and the values they denote, read by recursive descent. A text is a list of
characters; a number is its decimal mantissa with an exponent; a lone half of a surrogate pair
denotes no character and is refused. The descent is cut off at a depth, and a text denotes what
some depth is enough to read. -/
namespace Lib
open Numerals
universe u

inductive Json where
  | null
  | bool (b : Bool)
  | num (mantissa exponent : Int)
  | str (s : List Char)
  | arr (elements : List Json)
  | obj (members : List (List Char × Json))

namespace Json

/-- What a reader makes of the text before it, and what it leaves of it. -/
abbrev Reader (α : Type u) := List Char → Option (α × List Char)

def Below {α : Type u} (p q : Reader α) : Prop := ∀ cs x, p cs = some x → q cs = some x

def space (c : Char) : Bool := c = ' ' || c = '\t' || c = '\n' || c = '\r'

def skip (cs : List Char) : List Char := cs.dropWhile space

theorem skip_cons {c : Char} (hc : space c = false) (cs : List Char) : skip (c :: cs) = c :: cs :=
  List.dropWhile_cons_of_neg (by simp [hc])

/-! ### Strings -/

def hexDigit (c : Char) : Option Nat :=
  if '0' ≤ c ∧ c ≤ '9' then some (c.toNat - '0'.toNat)
  else if 'a' ≤ c ∧ c ≤ 'f' then some (c.toNat - 'a'.toNat + 10)
  else if 'A' ≤ c ∧ c ≤ 'F' then some (c.toNat - 'A'.toNat + 10)
  else none

def hex4 : Reader Nat
  | a :: b :: c :: d :: rest => do
    let a ← hexDigit a
    let b ← hexDigit b
    let c ← hexDigit c
    let d ← hexDigit d
    return (((a * 16 + b) * 16 + c) * 16 + d, rest)
  | _ => none

def codeUnits : Reader Char := fun cs => do
  let (high, rest) ← hex4 cs
  if high < 0xD800 ∨ 0xDFFF < high then return (Char.ofNat high, rest)
  if 0xDBFF < high then none
  match rest with
  | '\\' :: 'u' :: rest =>
    let (low, rest) ← hex4 rest
    if 0xDC00 ≤ low ∧ low ≤ 0xDFFF then
      return (Char.ofNat (0x10000 + (high - 0xD800) * 0x400 + (low - 0xDC00)), rest)
    none
  | _ => none

def escape : Reader Char
  | '"' :: rest => some ('"', rest)
  | '\\' :: rest => some ('\\', rest)
  | '/' :: rest => some ('/', rest)
  | 'b' :: rest => some ('\x08', rest)
  | 'f' :: rest => some ('\x0c', rest)
  | 'n' :: rest => some ('\n', rest)
  | 'r' :: rest => some ('\r', rest)
  | 't' :: rest => some ('\t', rest)
  | 'u' :: rest => codeUnits rest
  | _ => none

/-- One character of a string: escaped, or itself when it is none of those that must be. -/
def strChar : Reader Char
  | [] => none
  | c :: rest =>
    if c = '\\' then escape rest
    else if c = '"' ∨ c.toNat < 0x20 then none
    else some (c, rest)

def string : Nat → Reader (List Char)
  | 0, _ => none
  | _ + 1, [] => none
  | depth + 1, c :: cs =>
    if c = '"' then some ([], cs)
    else do
      let (ch, rest) ← strChar (c :: cs)
      let (s, rest) ← string depth rest
      return (ch :: s, rest)

/-! ### Numbers -/

def digits (cs : List Char) : List Char × List Char :=
  (cs.takeWhile Char.isDigit, cs.dropWhile Char.isDigit)

def digitsValue (ds : List Char) : Nat := Nat.ofDigitChars 10 ds 0

/-- One digit or more, and no zero in front of others. -/
def intPart : Reader (List Char) := fun cs =>
  match digits cs with
  | ([], _) => none
  | ('0' :: _ :: _, _) => none
  | (ds, rest) => some (ds, rest)

def fracPart : Reader (List Char)
  | '.' :: cs =>
    match digits cs with
    | ([], _) => none
    | (ds, rest) => some (ds, rest)
  | cs => some ([], cs)

def signed : List Char → Bool × List Char
  | '-' :: cs => (true, cs)
  | '+' :: cs => (false, cs)
  | cs => (false, cs)

def expPart : Reader Int
  | c :: cs =>
    if c = 'e' ∨ c = 'E' then
      match digits (signed cs).2 with
      | ([], _) => none
      | (ds, rest) =>
        some (if (signed cs).1 then -(digitsValue ds : Int) else digitsValue ds, rest)
    else some (0, c :: cs)
  | [] => some (0, [])

def magnitude : Reader (Nat × Int) := fun cs => do
  let (int, rest) ← intPart cs
  let (frac, rest) ← fracPart rest
  let (exp, rest) ← expPart rest
  return ((digitsValue (int ++ frac), exp - frac.length), rest)

def number : Reader Json
  | '-' :: cs => (magnitude cs).map fun (m, rest) => (.num (-(m.1 : Int)) m.2, rest)
  | cs => (magnitude cs).map fun (m, rest) => (.num m.1 m.2, rest)

/-! ### Values -/

def arrayOf (elements : Reader (List Json)) : Reader Json := fun cs =>
  match skip cs with
  | ']' :: rest => some (.arr [], rest)
  | rest => (elements rest).map fun (es, rest) => (.arr es, rest)

def objectOf (members : Reader (List (List Char × Json))) : Reader Json := fun cs =>
  match skip cs with
  | '\x7d' :: rest => some (.obj [], rest)
  | rest => (members rest).map fun (ms, rest) => (.obj ms, rest)

/-- A value whose parts are read by `string`, `elements` and `members`. -/
def valueOf (string : Reader (List Char)) (elements : Reader (List Json))
    (members : Reader (List (List Char × Json))) : Reader Json
  | '"' :: rest => (string rest).map fun (s, rest) => (.str s, rest)
  | '[' :: rest => arrayOf elements rest
  | '\x7b' :: rest => objectOf members rest
  | 't' :: 'r' :: 'u' :: 'e' :: rest => some (.bool true, rest)
  | 'f' :: 'a' :: 'l' :: 's' :: 'e' :: rest => some (.bool false, rest)
  | 'n' :: 'u' :: 'l' :: 'l' :: rest => some (.null, rest)
  | cs => number cs

def elementsOf (value : Reader Json) (elements : Reader (List Json)) : Reader (List Json) :=
  fun cs => do
    let (e, rest) ← value cs
    match skip rest with
    | ',' :: rest =>
      let (es, rest) ← elements (skip rest)
      return (e :: es, rest)
    | ']' :: rest => return ([e], rest)
    | _ => none

def memberOf (string : Reader (List Char)) (value : Reader Json) : Reader (List Char × Json)
  | '"' :: rest => do
    let (name, rest) ← string rest
    match skip rest with
    | ':' :: rest =>
      let (v, rest) ← value (skip rest)
      return ((name, v), rest)
    | _ => none
  | _ => none

def membersOf (member : Reader (List Char × Json)) (members : Reader (List (List Char × Json))) :
    Reader (List (List Char × Json)) :=
  fun cs => do
    let (m, rest) ← member cs
    match skip rest with
    | ',' :: rest =>
      let (ms, rest) ← members (skip rest)
      return (m :: ms, rest)
    | '\x7d' :: rest => return ([m], rest)
    | _ => none

mutual

def value : Nat → Reader Json
  | 0 => fun _ => none
  | depth + 1 => valueOf (string depth) (elements depth) (members depth)

def elements : Nat → Reader (List Json)
  | 0 => fun _ => none
  | depth + 1 => elementsOf (value depth) (elements depth)

def members : Nat → Reader (List (List Char × Json))
  | 0 => fun _ => none
  | depth + 1 => membersOf (memberOf (string depth) (value depth)) (members depth)

end

def member (depth : Nat) : Reader (List Char × Json) := memberOf (string depth) (value depth)

def text (depth : Nat) (cs : List Char) : Option Json :=
  match value depth (skip cs) with
  | some (v, rest) => if skip rest = [] then some v else none
  | none => none

def Denotes (cs : List Char) (v : Json) : Prop := ∃ depth, text depth cs = some v

example : text 4 ['[', '-', '1', '.', '5', ',', ' ', 't', 'r', 'u', 'e', ']'] =
    some (.arr [.num (-15) (-1), .bool true]) := rfl

/-! ### More depth reads no less -/

theorem Below.map {α β : Type} {p q : Reader α} (h : Below p q) (f : α × List Char → β)
    (cs : List Char) (x : β) (hx : (p cs).map f = some x) : (q cs).map f = some x := by
  obtain ⟨y, hy, rfl⟩ := Option.map_eq_some_iff.mp hx
  rw [h cs y hy]
  rfl

theorem Below.bind {α β : Type} {p q : Reader α} (h : Below p q)
    {f g : α × List Char → Option β} (hfg : ∀ y x, f y = some x → g y = some x) (cs : List Char)
    (x : β) (hx : (p cs).bind f = some x) : (q cs).bind g = some x := by
  obtain ⟨y, hy, hf⟩ := Option.bind_eq_some_iff.mp hx
  rw [h cs y hy]
  exact hfg y x hf

theorem string_below (depth : Nat) : Below (string depth) (string (depth + 1)) := by
  induction depth with
  | zero => exact fun _ _ h => by cases h
  | succ depth ih =>
    intro cs x h
    cases cs with
    | nil => cases h
    | cons c cs =>
      rw [string] at h ⊢
      split
      · rename_i hc
        rwa [if_pos hc] at h
      · rename_i hc
        rw [if_neg hc] at h
        obtain ⟨y, hy, hf⟩ := Option.bind_eq_some_iff.mp h
        refine Option.bind_eq_some_iff.mpr ⟨y, hy, ?_⟩
        exact ih.bind (fun _ _ hf => hf) _ _ hf

section
variable {s s' : Reader (List Char)} {v v' : Reader Json} {e e' : Reader (List Json)}
  {m m' : Reader (List (List Char × Json))}

theorem arrayOf_below (he : Below e e') : Below (arrayOf e) (arrayOf e') := by
  intro cs x h
  rw [arrayOf] at h ⊢
  split at h
  · exact h
  · exact he.map _ _ _ h

theorem objectOf_below (hm : Below m m') : Below (objectOf m) (objectOf m') := by
  intro cs x h
  rw [objectOf] at h ⊢
  split at h
  · exact h
  · exact hm.map _ _ _ h

theorem valueOf_below (hs : Below s s') (he : Below e e') (hm : Below m m') :
    Below (valueOf s e m) (valueOf s' e' m') := by
  intro cs x h
  fun_cases valueOf s e m cs with
  | case1 rest => exact hs.map _ _ _ h
  | case2 rest => exact arrayOf_below he _ _ h
  | case3 rest => exact objectOf_below hm _ _ h
  | case7 => simpa [valueOf, *] using h
  | _ => exact h

theorem elementsOf_below (hv : Below v v') (he : Below e e') :
    Below (elementsOf v e) (elementsOf v' e') := by
  intro cs x h
  refine hv.bind ?_ _ _ h
  rintro ⟨y, rest⟩ x h
  dsimp only at h ⊢
  split at h
  · exact he.bind (fun _ _ hf => hf) _ _ h
  · exact h
  · cases h

theorem memberOf_below (hs : Below s s') (hv : Below v v') :
    Below (memberOf s v) (memberOf s' v') := by
  intro cs x h
  fun_cases memberOf s v cs with
  | case1 rest =>
    refine hs.bind ?_ _ _ h
    rintro ⟨y, rest⟩ x h
    dsimp only at h ⊢
    split at h
    · exact hv.bind (fun _ _ hf => hf) _ _ h
    · cases h
  | case2 => simp [memberOf, *] at h

theorem membersOf_below {p p' : Reader (List Char × Json)} (hp : Below p p') (hm : Below m m') :
    Below (membersOf p m) (membersOf p' m') := by
  intro cs x h
  refine hp.bind ?_ _ _ h
  rintro ⟨y, rest⟩ x h
  dsimp only at h ⊢
  split at h
  · exact hm.bind (fun _ _ hf => hf) _ _ h
  · exact h
  · cases h

end

theorem readers_succ (depth : Nat) : Below (value depth) (value (depth + 1)) ∧
    Below (elements depth) (elements (depth + 1)) ∧ Below (members depth) (members (depth + 1)) := by
  induction depth with
  | zero =>
    have hnone {α : Type} (q : Reader α) : Below (fun _ => none) q := fun _ _ h => by cases h
    exact ⟨hnone _, hnone _, hnone _⟩
  | succ depth ih =>
    obtain ⟨hv, he, hm⟩ := ih
    have hs := string_below depth
    exact ⟨valueOf_below hs he hm, elementsOf_below hv he,
      membersOf_below (memberOf_below hs hv) hm⟩

/-- Readers that read no less at greater depth. -/
def Rising {α : Type u} (p : Nat → Reader α) : Prop := ∀ depth, Below (p depth) (p (depth + 1))

theorem Rising.mono {α : Type u} {p : Nat → Reader α} (h : Rising p) {depth depth' : Nat}
    (hle : depth ≤ depth') : Below (p depth) (p depth') := by
  induction hle with
  | refl => exact fun _ _ hx => hx
  | step _ ih => exact fun cs x hx => h _ cs x (ih cs x hx)

theorem Rising.unique {α : Type u} {p : Nat → Reader α} (h : Rising p) {m n : Nat}
    {cs : List Char} {x y : α × List Char} (hx : p m cs = some x) (hy : p n cs = some y) : x = y :=
  Option.some.inj ((h.mono (Nat.le_max_left m n) cs x hx).symm.trans
    (h.mono (Nat.le_max_right m n) cs y hy))

theorem string_rising : Rising string := string_below

theorem value_rising : Rising value := fun depth => (readers_succ depth).1

theorem member_rising : Rising member := fun depth =>
  memberOf_below (string_below depth) (value_rising depth)

theorem members_rising : Rising members := fun depth => (readers_succ depth).2.2

/-- A text denotes one value at most. -/
theorem Denotes.unique {cs : List Char} {v w : Json} (hv : Denotes cs v) (hw : Denotes cs w) :
    v = w := by
  have hread {v : Json} (h : Denotes cs v) :
      ∃ depth rest, value depth (skip cs) = some (v, rest) := by
    obtain ⟨depth, h⟩ := h
    rw [text] at h
    split at h
    · rename_i u rest hu
      split at h
      · cases h
        exact ⟨depth, rest, hu⟩
      · cases h
    · cases h
  obtain ⟨m, rest, hm⟩ := hread hv
  obtain ⟨n, rest', hn⟩ := hread hw
  exact congrArg Prod.fst (value_rising.unique hm hn)

/-! ### Reading what was printed -/

theorem digits_append {ds : List Char} (hd : ∀ c ∈ ds, c.isDigit) {c : Char}
    (hc : c.isDigit = false) (rest : List Char) : digits (ds ++ c :: rest) = (ds, c :: rest) := by
  rw [digits, List.takeWhile_append_of_pos hd, List.dropWhile_append_of_pos hd,
    List.takeWhile_cons_of_neg (by simp [hc]), List.dropWhile_cons_of_neg (by simp [hc]),
    List.append_nil]

theorem intPart_decimal (n : Nat) {c : Char} (hc : c.isDigit = false) (rest : List Char) :
    intPart (decimal n ++ c :: rest) = some (decimal n, c :: rest) := by
  rw [intPart, digits_append (fun _ => isDigit_decimal) hc]
  split
  · rename_i h
    exact absurd (Prod.mk.inj h).1 (decimal_ne_nil n)
  · rename_i h
    exact absurd (Prod.mk.inj h).1 (decimal_ne_zero_cons n _ _)
  · rename_i h
    rw [(Prod.mk.inj h).1, (Prod.mk.inj h).2]

theorem decimal_append_ne (n : Nat) {x : Char} (cs : List Char) (hx : x.isDigit = false)
    (cs' : List Char) : decimal n ++ cs ≠ x :: cs' := by
  intro h
  obtain ⟨d, ds, hd⟩ := List.exists_cons_of_ne_nil (decimal_ne_nil n)
  rw [hd, List.cons_append] at h
  have hdigit : d.isDigit := isDigit_decimal (hd ▸ List.mem_cons_self)
  rw [(List.cons.inj h).1, hx] at hdigit
  cases hdigit

theorem number_decimal (n : Nat) {c : Char} (hc : c = ',' ∨ c = '\x7d') (rest : List Char) :
    number (decimal n ++ c :: rest) = some (.num n 0, c :: rest) := by
  have hmag : magnitude (decimal n ++ c :: rest) = some ((n, 0), c :: rest) := by
    have hend : c.isDigit = false := by rcases hc with rfl | rfl <;> rfl
    have hint := intPart_decimal n hend rest
    have hfrac : fracPart (c :: rest) = some ([], c :: rest) := by
      rcases hc with rfl | rfl <;> rfl
    have hexp : expPart (c :: rest) = some (0, c :: rest) := by
      rcases hc with rfl | rfl <;> rfl
    have hval : digitsValue (decimal n) = n := Nat.ofDigitChars_ten_toDigits
    simp [magnitude, hint, hfrac, hexp, hval]
  rw [number, hmag]
  · rfl
  · exact fun cs h => decimal_append_ne n _ rfl cs h

theorem value_decimal (depth n : Nat) {c : Char} (hc : c = ',' ∨ c = '\x7d') (rest : List Char) :
    value (depth + 1) (decimal n ++ c :: rest) = some (.num n 0, c :: rest) := by
  rw [value, valueOf, number_decimal n hc]
  all_goals exact fun cs h => decimal_append_ne n _ rfl _ h

theorem skip_decimal (n : Nat) (cs : List Char) : skip (decimal n ++ cs) = decimal n ++ cs := by
  obtain ⟨d, ds, hd⟩ := List.exists_cons_of_ne_nil (decimal_ne_nil n)
  have hdigit : d.isDigit := isDigit_decimal (hd ▸ List.mem_cons_self)
  rw [hd, List.cons_append, skip, List.dropWhile_cons_of_neg]
  intro hs
  simp only [space, Bool.or_eq_true, decide_eq_true_eq] at hs
  rcases hs with ((rfl | rfl) | rfl) | rfl <;> cases hdigit

def Reads {α : Type u} (p : Nat → Reader α) (cs : List Char) (x : α) (rest : List Char) : Prop :=
  ∃ depth, p depth cs = some (x, rest)

def Refuses {α : Type u} (p : Nat → Reader α) (cs : List Char) : Prop := ∀ depth, p depth cs = none

section
variable {cs cs' rest name : List Char} {v : Json} {m : List Char × Json}
  {ms : List (List Char × Json)}

theorem Reads.both {α β : Type u} {p : Nat → Reader α} {q : Nat → Reader β} (hp : Rising p)
    (hq : Rising q) {x : α} {y : β} {cs cs' rest rest' : List Char} (hx : Reads p cs x rest)
    (hy : Reads q cs' y rest') :
    ∃ depth, p depth cs = some (x, rest) ∧ q depth cs' = some (y, rest') := by
  obtain ⟨i, hi⟩ := hx
  obtain ⟨j, hj⟩ := hy
  exact ⟨max i j, hp.mono (Nat.le_max_left i j) _ _ hi, hq.mono (Nat.le_max_right i j) _ _ hj⟩

theorem member_reads (hs : Reads string cs name (':' :: cs')) (hskip : skip cs' = cs')
    (hv : Reads value cs' v rest) : Reads member ('"' :: cs) (name, v) rest := by
  obtain ⟨depth, hs, hv⟩ := hs.both string_rising value_rising hv
  exact ⟨depth, by simp [member, memberOf, hs, skip_cons (c := ':') rfl, hskip, hv]⟩

theorem members_last (hm : Reads member cs m ('\x7d' :: rest)) : Reads members cs [m] rest := by
  obtain ⟨depth, hm⟩ := hm
  have hm : memberOf (string depth) (value depth) cs = some (m, '\x7d' :: rest) := hm
  exact ⟨depth + 1, by simp [members, membersOf, hm, skip_cons (c := '\x7d') rfl]⟩

theorem members_more (hm : Reads member cs m (',' :: '"' :: cs'))
    (hms : Reads members ('"' :: cs') ms rest) : Reads members cs (m :: ms) rest := by
  obtain ⟨depth, hm, hms⟩ := hm.both member_rising members_rising hms
  have hm : memberOf (string depth) (value depth) cs = some (m, ',' :: '"' :: cs') := hm
  exact ⟨depth + 1, by
    simp [members, membersOf, hm, skip_cons (c := ',') rfl, skip_cons (c := '"') rfl, hms]⟩

theorem object_reads (hms : Reads members ('"' :: cs) ms rest) :
    Reads value ('\x7b' :: '"' :: cs) (.obj ms) rest := by
  obtain ⟨depth, hms⟩ := hms
  refine ⟨depth + 1, ?_⟩
  have hobj : objectOf (members depth) ('"' :: cs) = some (.obj ms, rest) := by
    simp [objectOf, skip_cons (c := '"') rfl, hms]
  exact hobj

theorem object_empty (rest : List Char) :
    Reads value ('\x7b' :: '\x7d' :: rest) (.obj []) rest := ⟨1, rfl⟩

theorem denotes_of_reads (hskip : skip cs = cs) (hv : Reads value cs v []) : Denotes cs v := by
  obtain ⟨depth, hv⟩ := hv
  exact ⟨depth, by rw [text, hskip, hv]; rfl⟩

theorem member_refuses_name (hs : Refuses string cs) : Refuses member ('"' :: cs) := fun depth => by
  rw [member, memberOf, hs depth]
  rfl

theorem member_refuses_value (hs : Reads string cs name (':' :: cs')) (hskip : skip cs' = cs')
    (hv : Refuses value cs') : Refuses member ('"' :: cs) := fun depth => by
  obtain ⟨depth', hs⟩ := hs
  rw [member, memberOf]
  cases hs' : string depth cs with
  | none => rfl
  | some x =>
    obtain rfl := string_rising.unique hs hs'
    simp [skip_cons (c := ':') rfl, hskip, hv depth]

theorem members_refuses (hm : Refuses member cs) : Refuses members cs := fun depth => by
  cases depth with
  | zero => rfl
  | succ depth =>
    have hm : memberOf (string depth) (value depth) cs = none := hm depth
    rw [members, membersOf, hm]
    rfl

theorem members_refuses_rest (hm : Reads member cs m (',' :: '"' :: cs'))
    (hms : Refuses members ('"' :: cs')) : Refuses members cs := fun depth => by
  obtain ⟨depth', hm⟩ := hm
  cases depth with
  | zero => rfl
  | succ depth =>
    rw [members, membersOf]
    cases hm' : memberOf (string depth) (value depth) cs with
    | none => rfl
    | some x =>
      obtain rfl := member_rising.unique hm (show member depth cs = some x from hm')
      simp [skip_cons (c := ',') rfl, skip_cons (c := '"') rfl, hms depth]

theorem object_refuses (hms : Refuses members ('"' :: cs)) :
    Refuses value ('\x7b' :: '"' :: cs) := fun depth => by
  cases depth with
  | zero => rfl
  | succ depth =>
    have hobj : objectOf (members depth) ('"' :: cs) = none := by
      simp [objectOf, skip_cons (c := '"') rfl, hms depth]
    exact hobj

theorem not_denotes_of_refuses (hskip : skip cs = cs) (hv : Refuses value cs) (v : Json) :
    ¬ Denotes cs v := by
  rintro ⟨depth, h⟩
  rw [text, hskip, hv depth] at h
  cases h

end

theorem ne_of_control {c : Char} (hc : c.toNat < 0x20) : c ≠ '\\' ∧ c ≠ '"' := by
  constructor
  · rintro rfl
    exact absurd hc (by decide)
  · rintro rfl
    exact absurd hc (by decide)

theorem string_control {c : Char} (hc : c.toNat < 0x20) (cs : List Char) :
    Refuses string (c :: cs) := fun depth => by
  obtain ⟨hslash, hquote⟩ := ne_of_control hc
  cases depth with
  | zero => rfl
  | succ depth => simp [string, strChar, hslash, hquote, hc]

end Json
end Lib
