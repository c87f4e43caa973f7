import Mathlib.Algebra.Group.Nat.Defs
import Mathlib.Logic.Function.Basic

/-! The 64-bit wire handle: kind byte, 24-bit generation, 32-bit slot index. -/
namespace Graftx.Protocol

/-- Largest generation a handle can carry; a slot is retired rather than pass it. -/
def generationMax : UInt32 := ((1 : UInt32) <<< 24) - 1

structure Handle where
  raw : UInt64
  deriving DecidableEq, Repr

namespace Handle

/-- Pack the three fields. High bits of `generation` are masked off. -/
def new (kind : UInt8) (generation slot : UInt32) : Handle :=
  ⟨(kind.toUInt64 <<< 56) ||| ((generation &&& generationMax).toUInt64 <<< 32) ||| slot.toUInt64⟩

def kind (h : Handle) : UInt8 := (h.raw >>> 56).toUInt8
def generation (h : Handle) : UInt32 := (h.raw >>> 32).toUInt32 &&& generationMax
def slot (h : Handle) : UInt32 := h.raw.toUInt32
def fromRaw (raw : UInt64) : Handle := ⟨raw⟩

theorem toNat_generationMax : generationMax.toNat = 2 ^ 24 - 1 := by decide

theorem toNat_masked (g : UInt32) : (g &&& generationMax).toNat = g.toNat % 2 ^ 24 := by
  rw [UInt32.toNat_and, toNat_generationMax, Nat.and_two_pow_sub_one_eq_mod]

theorem masked_of_le (g : UInt32) (h : g ≤ generationMax) : g &&& generationMax = g := by
  have hg : g.toNat ≤ 2 ^ 24 - 1 := by
    rw [← toNat_generationMax]
    exact UInt32.le_iff_toNat_le.mp h
  apply UInt32.toNat_inj.mp
  rw [toNat_masked, Nat.mod_eq_of_lt (by omega)]

theorem toNat_raw_new (k : UInt8) (g s : UInt32) :
    (new k g s).raw.toNat = 2 ^ 56 * k.toNat + (2 ^ 32 * (g.toNat % 2 ^ 24) + s.toNat) := by
  have hk := k.toNat_lt
  have hs := s.toNat_lt
  have hg : g.toNat % 2 ^ 24 < 2 ^ 24 := Nat.mod_lt _ (by decide)
  have hlow : 2 ^ 32 * (g.toNat % 2 ^ 24) + s.toNat < 2 ^ 56 := by omega
  rw [Nat.two_pow_add_eq_or_of_lt hlow, Nat.two_pow_add_eq_or_of_lt hs, ← Nat.or_assoc]
  simp only [new, UInt64.toNat_or, UInt64.toNat_shiftLeft, UInt8.toNat_toUInt64,
    UInt32.toNat_toUInt64, toNat_masked, Nat.shiftLeft_eq]
  congr 2
  · rw [show (UInt64.toNat 56 % 64) = 56 from rfl]
    omega
  · rw [show (UInt64.toNat 32 % 64) = 32 from rfl]
    omega

theorem toNat_kind (h : Handle) : h.kind.toNat = h.raw.toNat / 2 ^ 56 := by
  have hr := h.raw.toNat_lt
  simp only [kind, UInt64.toNat_toUInt8, UInt64.toNat_shiftRight, Nat.shiftRight_eq_div_pow]
  rw [show (UInt64.toNat 56 % 64) = 56 from rfl]
  omega

theorem toNat_generation (h : Handle) : h.generation.toNat = h.raw.toNat / 2 ^ 32 % 2 ^ 24 := by
  have hr := h.raw.toNat_lt
  rw [generation, toNat_masked, UInt64.toNat_toUInt32, UInt64.toNat_shiftRight,
    Nat.shiftRight_eq_div_pow, show (UInt64.toNat 32 % 64) = 32 from rfl]
  omega

theorem toNat_slot (h : Handle) : h.slot.toNat = h.raw.toNat % 2 ^ 32 := by
  simp only [slot, UInt64.toNat_toUInt32]

@[simp] theorem kind_new (k : UInt8) (g s : UInt32) : (new k g s).kind = k := by
  have hs := s.toNat_lt
  apply UInt8.toNat_inj.mp
  rw [toNat_kind, toNat_raw_new]
  omega

@[simp] theorem slot_new (k : UInt8) (g s : UInt32) : (new k g s).slot = s := by
  have hs := s.toNat_lt
  apply UInt32.toNat_inj.mp
  rw [toNat_slot, toNat_raw_new]
  omega

@[simp] theorem generation_new (k : UInt8) (g s : UInt32) :
    (new k g s).generation = g &&& generationMax := by
  have hs := s.toNat_lt
  apply UInt32.toNat_inj.mp
  rw [toNat_generation, toNat_raw_new, toNat_masked]
  omega

theorem new_fields (h : Handle) : new h.kind h.generation h.slot = h := by
  have hr := h.raw.toNat_lt
  have hraw : (new h.kind h.generation h.slot).raw = h.raw := by
    apply UInt64.toNat_inj.mp
    rw [toNat_raw_new, toNat_kind, toNat_generation, toNat_slot]
    omega
  cases h
  exact congrArg Handle.mk hraw

theorem ext_fields (a b : Handle) (hk : a.kind = b.kind) (hg : a.generation = b.generation)
    (hs : a.slot = b.slot) : a = b := by
  rw [← new_fields a, ← new_fields b, hk, hg, hs]

theorem generation_le (h : Handle) : h.generation ≤ generationMax := by
  rw [UInt32.le_iff_toNat_le, toNat_generation, toNat_generationMax]
  omega

theorem generation_new_of_le (k : UInt8) {g : UInt32} (s : UInt32) (hg : g ≤ generationMax) :
    (new k g s).generation = g := by
  rw [generation_new, masked_of_le g hg]

theorem new_inj {k k' : UInt8} {g g' s s' : UInt32} (hg : g ≤ generationMax)
    (hg' : g' ≤ generationMax) (h : new k g s = new k' g' s') : k = k' ∧ g = g' ∧ s = s' := by
  refine ⟨?_, ?_, ?_⟩
  · rw [← kind_new k g s, h, kind_new]
  · rw [← generation_new_of_le k s hg, h, generation_new_of_le k' s' hg']
  · rw [← slot_new k g s, h, slot_new]

structure Fields where
  kind : UInt8
  generation : UInt32
  slot : UInt32
  generation_le : generation ≤ generationMax
  deriving DecidableEq

def fields (h : Handle) : Fields := ⟨h.kind, h.generation, h.slot, h.generation_le⟩

def Fields.pack (x : Fields) : Handle := new x.kind x.generation x.slot

@[simp] theorem pack_fields (h : Handle) : h.fields.pack = h := new_fields h

@[simp] theorem fields_pack (x : Fields) : x.pack.fields = x := by
  obtain ⟨k, g, s, hg⟩ := x
  simp only [Fields.pack, fields, kind_new, generation_new_of_le k s hg, slot_new]

theorem pack_bijective : Function.Bijective fun x : Fields => x.pack.raw := by
  constructor
  · intro x y h
    have hpack : x.pack = y.pack := congrArg fromRaw h
    rw [← fields_pack x, hpack, fields_pack]
  · intro raw
    exact ⟨(fromRaw raw).fields, congrArg Handle.raw (pack_fields (fromRaw raw))⟩

/-- The accessors give back what was packed, the generation without its high bits; packing
what they give restores the raw value; and raw values tell apart any fields that fit. -/
theorem packing_exact :
    (∀ (kind : UInt8) (generation slot : UInt32),
      (new kind generation slot).kind = kind ∧
      (new kind generation slot).generation.toNat = generation.toNat % 2 ^ 24 ∧
      (new kind generation slot).slot = slot) ∧
    (∀ raw : UInt64,
      (new (fromRaw raw).kind (fromRaw raw).generation (fromRaw raw).slot).raw = raw) ∧
    (∀ (k k' : UInt8) (g g' s s' : UInt32), g ≤ generationMax → g' ≤ generationMax →
      (new k g s).raw = (new k' g' s').raw → k = k' ∧ g = g' ∧ s = s') ∧
    Function.Bijective fun x : Fields => x.pack.raw := by
  refine ⟨fun kind generation slot => ⟨kind_new .., ?_, slot_new ..⟩, fun raw => ?_, ?_,
    pack_bijective⟩
  · rw [generation_new, toNat_masked]
  · rw [new_fields]
    rfl
  · intro k k' g g' s s' hg hg' h
    exact new_inj hg hg' (congrArg fromRaw h)

/-- What a table looks at when it resolves a handle: the slot and the generation,
never the kind byte. -/
def key (h : Handle) : UInt32 × UInt32 := (h.slot, h.generation)

theorem key_eq_iff (a b : Handle) :
    a.key = b.key ↔ a.slot = b.slot ∧ a.generation = b.generation := Prod.ext_iff

end Handle
end Graftx.Protocol
