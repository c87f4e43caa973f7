import Graftx.Transport.Stream

/-! The receiving end as a function of the bytes alone: which frames come off a byte stream, in
whatever chunks it arrives, and the error the reading ends with. -/
namespace Graftx
open Graftx.Protocol Lib.LittleEndian Lib.Machine

/-- The frames in front, and why nothing follows them. Bytes that end too early end in whatever
way reading does. -/
def unframe (cap : UInt32) (ending : IoError) (b : Bytes) : List Bytes × IoError :=
  if b.length < 4 then ([], ending)
  else
    let len := leValue (b.take 4)
    if cap.toNat < len then ([], .invalidData)
    else if b.length < 4 + len then ([], ending)
    else
      let (frames, e) := unframe cap ending (b.drop (4 + len))
      ((b.drop 4).take len :: frames, e)
termination_by b.length
decreasing_by
  rw [List.length_drop]
  omega

theorem length_le32 (n : UInt32) : (le32 n).length = 4 := leBytes_length 4 _

theorem leValue_le32 (n : UInt32) : leValue (le32 n) = n.toNat :=
  leValue_leBytes_of_lt 4 _ n.toNat_lt

theorem eq_le32_append (b : Bytes) (h : 4 ≤ b.length) : ∃ len rest, b = le32 len ++ rest := by
  have hlen : (b.take 4).length = 4 := List.length_take_of_le h
  have hlt := leValue_lt (b.take 4)
  rw [hlen] at hlt
  refine ⟨UInt32.ofNat (leValue (b.take 4)), b.drop 4, ?_⟩
  have hback := leBytes_leValue (b.take 4)
  rw [hlen] at hback
  rw [le32, UInt32.toNat_ofNat_of_lt' hlt, hback, List.take_append_drop]

section
variable (cap : UInt32) (ending : IoError)

theorem unframe_short (b : Bytes) (h : b.length < 4) : unframe cap ending b = ([], ending) := by
  rw [unframe, if_pos h]

theorem unframe_header (len : UInt32) (rest : Bytes) : unframe cap ending (le32 len ++ rest) =
    if cap < len then ([], .invalidData)
    else if rest.length < len.toNat then ([], ending)
    else
      (rest.take len.toNat :: (unframe cap ending (rest.drop len.toNat)).1,
        (unframe cap ending (rest.drop len.toNat)).2) := by
  have h4 := length_le32 len
  have htake : (le32 len ++ rest).take 4 = le32 len := by rw [← h4, List.take_left]
  have hdrop : (le32 len ++ rest).drop 4 = rest := by rw [← h4, List.drop_left]
  rw [unframe, htake, leValue_le32, hdrop, List.length_append, h4, if_neg (by omega)]
  simp only [UInt32.lt_iff_toNat_lt, Nat.add_lt_add_iff_left, ← List.drop_drop, hdrop]

theorem unframe_wire (frames : List Bytes) (h : ∀ f ∈ frames, f.length ≤ cap.toNat) :
    unframe cap ending (wire frames) = (frames, ending) := by
  induction frames with
  | nil => exact unframe_short cap ending [] (by decide)
  | cons frame frames ih =>
    have hcap := h frame List.mem_cons_self
    have hn : (UInt32.ofNat frame.length).toNat = frame.length :=
      UInt32.toNat_ofNat_of_lt' (Nat.lt_of_le_of_lt hcap cap.toNat_lt)
    have hle : ¬ cap < UInt32.ofNat frame.length := by
      rw [UInt32.lt_iff_toNat_lt, hn]
      omega
    rw [wire, prefixed, List.append_assoc, unframe_header, if_neg hle, hn,
      if_neg (by rw [List.length_append]; omega), List.drop_left, List.take_left,
      ih fun f hf => h f (List.mem_cons_of_mem frame hf)]

theorem length_unframe (b : Bytes) : 4 * (unframe cap ending b).1.length ≤ b.length := by
  induction h : b.length using Nat.strongRecOn generalizing b with
  | _ n ih =>
    by_cases hshort : b.length < 4
    · rw [unframe_short cap ending b hshort]
      exact Nat.zero_le _
    · obtain ⟨len, rest, rfl⟩ := eq_le32_append b (Nat.not_lt.mp hshort)
      rw [List.length_append, length_le32] at h
      rw [unframe_header]
      split
      · exact Nat.zero_le _
      · split
        · exact Nat.zero_le _
        · have hdrop : (rest.drop len.toNat).length = rest.length - len.toNat := List.length_drop
          have hrest := ih _ (by omega) (rest.drop len.toNat) hdrop
          rw [List.length_cons]
          omega

end
end Graftx
