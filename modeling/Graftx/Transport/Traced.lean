import Graftx.Transport.Core

/-! A transport that remembers what went through it: every frame received, and every frame
handed over for sending together with what became of it. -/
namespace Graftx
open Graftx.Protocol

structure Traced (T : Type) where
  inner : T
  received : List Bytes
  sends : List (Bytes × Except IoError Unit)

namespace Traced
variable {T : Type} [Transport T]

def start (t : T) : Traced T := ⟨t, [], []⟩

instance : Transport (Traced T) where
  send t frame :=
    let (r, inner) := Transport.send t.inner frame
    (r, { t with inner, sends := t.sends ++ [(frame, r)] })
  recv t :=
    match Transport.recv t.inner with
    | (.error e, inner) => (.error e, { t with inner })
    | (.ok frame, inner) => (.ok frame, { t with inner, received := t.received ++ [frame] })

theorem send_eq (t : Traced T) {frame : Bytes} {r : Except IoError Unit} {inner : T}
    (h : Transport.send t.inner frame = (r, inner)) :
    Transport.send t frame = (r, { t with inner, sends := t.sends ++ [(frame, r)] }) := by
  simp only [Transport.send, h]

theorem recv_eq (t : Traced T) {frame : Bytes} {inner : T}
    (h : Transport.recv t.inner = (.ok frame, inner)) :
    Transport.recv t = (.ok frame, { t with inner, received := t.received ++ [frame] }) := by
  simp only [Transport.recv, h]

theorem exchange_eq (t : Traced T) {frame reply : Bytes} {inner inner' : T}
    (hs : Transport.send t.inner frame = (.ok (), inner))
    (hr : Transport.recv inner = (.ok reply, inner')) : ∃ t' t'',
      Transport.send t frame = (.ok (), t') ∧ Transport.recv t' = (.ok reply, t'') := by
  have hs' := t.send_eq hs
  exact ⟨_, _, hs', recv_eq ⟨inner, t.received, t.sends ++ [(frame, .ok ())]⟩ hr⟩

theorem of_send {t t' : Traced T} {frame : Bytes} {r : Except IoError Unit}
    (h : Transport.send t frame = (r, t')) : Transport.send t.inner frame = (r, t'.inner) ∧
      t'.received = t.received ∧ t'.sends = t.sends ++ [(frame, r)] := by
  cases h
  exact ⟨rfl, rfl, rfl⟩

theorem of_recv_error {t t' : Traced T} {e : IoError} (h : Transport.recv t = (.error e, t')) :
    Transport.recv t.inner = (.error e, t'.inner) ∧ t'.received = t.received ∧
      t'.sends = t.sends := by
  simp only [Transport.recv] at h ⊢
  split at h
  · rename_i heq
    cases h
    exact ⟨heq, rfl, rfl⟩
  · cases h

theorem of_recv_ok {t t' : Traced T} {frame : Bytes} (h : Transport.recv t = (.ok frame, t')) :
    Transport.recv t.inner = (.ok frame, t'.inner) ∧ t'.received = t.received ++ [frame] ∧
      t'.sends = t.sends := by
  simp only [Transport.recv] at h ⊢
  split at h
  · cases h
  · rename_i heq
    cases h
    exact ⟨heq, rfl, rfl⟩

end Traced
end Graftx
