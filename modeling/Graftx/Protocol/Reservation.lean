import Graftx.Protocol.Vk

/-! What decoding a list of devices reserves. The count is taken from the body and handed to the
allocator before any element has been read, so it is not the body's length that limits it. -/
namespace Graftx.Protocol.Vk.EnumeratePhysicalDevicesResponse
open Lib.LittleEndian Lib.ExactReader Reader

/-- The decoder with the capacity it asks for: nothing until the count has been read, and then
the count. -/
def decodeReserving (buf : Bytes) :
    Option Nat × Except ProtocolError EnumeratePhysicalDevicesResponse :=
  match Reader.u32 (Reader.new buf) with
  | .error e => (none, .error e)
  | .ok (count, r) =>
    (some count.toNat, StateT.run' (many Reader.handle count.toNat >>= fun devices =>
      pure { devices }) r)

def reserved (buf : Bytes) : Option Nat := (decodeReserving buf).1

/-- Keeping the reservation in view changes nothing about the result. -/
theorem decodeReserving_result (buf : Bytes) : (decodeReserving buf).2 = decode buf := by
  rw [decodeReserving]
  change _ = (Reader.u32 >>= fun count => many Reader.handle count.toNat >>= fun devices =>
    pure (EnumeratePhysicalDevicesResponse.mk devices) : ReadM _) (Reader.new buf) >>=
      fun p => .ok p.1
  cases h : Reader.u32 (Reader.new buf) with
  | error e =>
    rw [bind_error h]
    rfl
  | ok p =>
    rw [bind_ok h]
    rfl

theorem reserved_short {buf : Bytes} (h : buf.length < 4) : reserved buf = none := by
  rw [reserved, decodeReserving, u32_takes.miss (Reader.new buf) h]

theorem reserved_long {buf : Bytes} (h : 4 ≤ buf.length) : reserved buf = some (count buf) := by
  obtain ⟨n, r, hr, -, hv⟩ := u32_takes.cover (Reader.new buf) h
  have hcount : UInt32.ofNat (count buf) = n := by
    rw [← Reader.rest_new buf, hv, count_le32]
  rw [reserved, decodeReserving, hr]
  change some n.toNat = _
  rw [← hcount, UInt32.toNat_ofNat_of_lt' (count_lt buf)]

/-- No more is reserved than the bytes behind the count have room for. -/
def Bounded (buf : Bytes) : Prop := ∀ n, reserved buf = some n → n ≤ (buf.length - 4) / 8

/-- The bound holds when there is no count to read, or when the body is long enough for the
count it starts with. -/
theorem bounded_iff (buf : Bytes) :
    Bounded buf ↔ buf.length < 4 ∨ 4 + 8 * count buf ≤ buf.length := by
  by_cases h : buf.length < 4
  · simp [Bounded, reserved_short h, h]
  · simp only [Bounded, reserved_long (Nat.not_lt.mp h), Option.some.injEq, forall_eq']
    omega

/-- A body that gets past its count and is then rejected has reserved too much. -/
theorem bounded_iff_accepted {buf : Bytes} (h : 4 ≤ buf.length) :
    Bounded buf ↔ ∃ x, decode buf = .ok x := by
  rw [bounded_iff, decode_exact.ok_iff]
  omega

theorem four_bytes_reserve (n : UInt32) : reserved (le32 n) = some n.toNat := by
  have h4 : (le32 n).length = 4 := leBytes_length 4 _
  have hn := count_le32 n []
  rw [List.append_nil] at hn
  rw [reserved_long (Nat.le_of_eq h4.symm), ← UInt32.toNat_ofNat_of_lt' (count_lt _), hn]

/-- An empty list announced as four billion elements. -/
theorem announced_list_reserved : ¬ ∀ buf, Bounded buf := by
  intro h
  have hb := h [0xFF, 0xFF, 0xFF, 0xFF] _ (four_bytes_reserve 0xFFFFFFFF)
  exact absurd hb (by decide)

end Graftx.Protocol.Vk.EnumeratePhysicalDevicesResponse
