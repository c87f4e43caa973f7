import Mathlib.Data.List.Basic

/-! Exact readers. A reader is a state transformer that may fail; `view` is the
input it has left. `Reads` says what one reader accepts, and its rules follow the
shape of a decoder: one rule per bind, one for the record it returns. -/
namespace Lib.ExactReader
universe u
variable {σ β ε α γ : Type u} {view : σ → List β} {eof : ε}

/-- The reader `m` takes one encoded value satisfying `P` off the view, `n` items
wide, and fails with `eof` exactly when fewer items are left. -/
structure Reads (view : σ → List β) (eof : ε) (P : α → Prop)
    (m : StateT σ (Except ε) α) (enc : α → List β) (n : Nat) : Prop where
  width : ∀ x, P x → (enc x).length = n
  hit : ∀ s x t, P x → view s = enc x ++ t → ∃ s', m s = .ok (x, s') ∧ view s' = t
  cover : ∀ s, n ≤ (view s).length →
    ∃ x s', m s = .ok (x, s') ∧ P x ∧ view s = enc x ++ view s'
  miss : ∀ s, (view s).length < n → m s = .error eof

theorem bind_ok {m : StateT σ (Except ε) α} {f : α → StateT σ (Except ε) γ} {s s' : σ} {x : α}
    (h : m s = .ok (x, s')) : (m >>= f) s = f x s' := by
  change (m s >>= fun p => f p.1 p.2) = f x s'
  rw [h]
  rfl

theorem bind_error {m : StateT σ (Except ε) α} {f : α → StateT σ (Except ε) γ} {s : σ} {e : ε}
    (h : m s = .error e) : (m >>= f) s = .error e := by
  change (m s >>= fun p => f p.1 p.2) = .error e
  rw [h]
  rfl

theorem Reads.split_length {P : α → Prop} {m : StateT σ (Except ε) α} {enc : α → List β} {n : Nat}
    (h : Reads view eof P m enc n) {s s' : σ} {x : α} (hx : P x)
    (hv : view s = enc x ++ view s') : (view s).length = n + (view s').length := by
  rw [hv, List.length_append, h.width x hx]

theorem Reads.pure {P : α → Prop} {x : α} (hP : ∀ y, P y ↔ y = x) :
    Reads view eof P (Pure.pure x) (fun _ => []) 0 where
  width _ _ := rfl
  hit s y t hy hs := ⟨s, by rw [(hP y).mp hy]; rfl, by simpa using hs⟩
  cover s _ := ⟨x, s, rfl, (hP x).mpr rfl, by simp⟩
  miss s hs := absurd hs (Nat.not_lt_zero _)

/-- Sequencing: `proj` is where the value read by `m` ends up in the result. -/
theorem Reads.bind {m : StateT σ (Except ε) α} {f : α → StateT σ (Except ε) γ} {Q : α → Prop}
    {P : γ → Prop} {e₁ : α → List β} {e₂ : γ → List β} {n₁ n₂ : Nat} (proj : γ → α)
    (hm : Reads view eof Q m e₁ n₁) (hQ : ∀ c, P c → Q (proj c))
    (hf : ∀ a, Q a → Reads view eof (fun c => P c ∧ proj c = a) (f a) e₂ n₂) :
    Reads view eof P (m >>= f) (fun c => e₁ (proj c) ++ e₂ c) (n₁ + n₂) where
  width c hc := by
    rw [List.length_append, hm.width _ (hQ c hc), (hf _ (hQ c hc)).width c ⟨hc, rfl⟩]
  hit s c t hc hs := by
    rw [List.append_assoc] at hs
    obtain ⟨s₁, h₁, hv₁⟩ := hm.hit s (proj c) _ (hQ c hc) hs
    obtain ⟨s₂, h₂, hv₂⟩ := (hf (proj c) (hQ c hc)).hit s₁ c t ⟨hc, rfl⟩ hv₁
    exact ⟨s₂, (bind_ok h₁).trans h₂, hv₂⟩
  cover s hs := by
    obtain ⟨a, s₁, h₁, ha, hv₁⟩ := hm.cover s (by omega)
    have hl := hm.split_length ha hv₁
    obtain ⟨c, s₂, h₂, ⟨hc, rfl⟩, hv₂⟩ := (hf a ha).cover s₁ (by omega)
    exact ⟨c, s₂, (bind_ok h₁).trans h₂, hc, by rw [hv₁, hv₂, List.append_assoc]⟩
  miss s hs := by
    by_cases hn : (view s).length < n₁
    · exact bind_error (hm.miss s hn)
    · obtain ⟨a, s₁, h₁, ha, hv₁⟩ := hm.cover s (by omega)
      have hl := hm.split_length ha hv₁
      rw [bind_ok h₁]
      exact (hf a ha).miss s₁ (by omega)

theorem Reads.field {m : StateT σ (Except ε) α} {f : α → StateT σ (Except ε) γ}
    {P : γ → Prop} {e₁ : α → List β} {e₂ : γ → List β} {n₁ n₂ : Nat} (proj : γ → α)
    (hm : Reads view eof (fun _ => True) m e₁ n₁)
    (hf : ∀ a, Reads view eof (fun c => P c ∧ proj c = a) (f a) e₂ n₂) :
    Reads view eof P (m >>= f) (fun c => e₁ (proj c) ++ e₂ c) (n₁ + n₂) :=
  hm.bind proj (fun _ _ => trivial) fun a _ => hf a

/-- The encoder may be written in any way that produces the same items. -/
theorem Reads.congr {P : α → Prop} {m : StateT σ (Except ε) α} {e₁ e₂ : α → List β} {n : Nat}
    (h : Reads view eof P m e₁ n) (he : ∀ x, e₁ x = e₂ x) : Reads view eof P m e₂ n := by
  have hee : e₁ = e₂ := funext he
  exact hee ▸ h

theorem Reads.map {m : StateT σ (Except ε) α} {Q : α → Prop} {e : α → List β} {n : Nat}
    (h : Reads view eof Q m e n) (mk : α → γ) (proj : γ → α)
    (hproj : ∀ c, Q (proj c) ∧ mk (proj c) = c) (hmk : ∀ a, Q a → proj (mk a) = a) :
    Reads view eof (fun _ => True) (m >>= fun a => Pure.pure (mk a)) (fun c => e (proj c)) n := by
  refine (h.bind proj (fun c _ => (hproj c).1) fun a ha => Reads.pure fun c => ?_).congr
    fun _ => List.append_nil _
  constructor
  · rintro ⟨-, rfl⟩
    exact (hproj c).2.symm
  · rintro rfl
    exact ⟨trivial, hmk a ha⟩

theorem Reads.one {α₁ : Type u} {m₁ : StateT σ (Except ε) α₁} {e₁ : α₁ → List β} {n₁ : Nat}
    (h₁ : Reads view eof (fun _ => True) m₁ e₁ n₁) (mk : α₁ → γ) (p₁ : γ → α₁)
    (eta : ∀ c, mk (p₁ c) = c) (beta : ∀ a₁, p₁ (mk a₁) = a₁) :
    Reads view eof (fun _ => True) (m₁ >>= fun a₁ => Pure.pure (mk a₁))
      (fun c => e₁ (p₁ c)) n₁ :=
  h₁.map mk p₁ (fun c => ⟨trivial, eta c⟩) fun a _ => beta a

theorem Reads.two {α₁ α₂ : Type u} {m₁ : StateT σ (Except ε) α₁} {m₂ : StateT σ (Except ε) α₂}
    {e₁ : α₁ → List β} {e₂ : α₂ → List β} {n₁ n₂ : Nat}
    (h₁ : Reads view eof (fun _ => True) m₁ e₁ n₁) (h₂ : Reads view eof (fun _ => True) m₂ e₂ n₂)
    (mk : α₁ → α₂ → γ) (p₁ : γ → α₁) (p₂ : γ → α₂) (eta : ∀ c, mk (p₁ c) (p₂ c) = c)
    (beta : ∀ a₁ a₂, p₁ (mk a₁ a₂) = a₁ ∧ p₂ (mk a₁ a₂) = a₂) :
    Reads view eof (fun _ => True) (m₁ >>= fun a₁ => m₂ >>= fun a₂ => Pure.pure (mk a₁ a₂))
      (fun c => e₁ (p₁ c) ++ e₂ (p₂ c)) (n₁ + n₂) := by
  refine (h₁.field p₁ fun a₁ => h₂.field p₂ fun a₂ => Reads.pure (x := mk a₁ a₂) fun c => ?_).congr
    fun _ => by rw [List.append_nil]
  constructor
  · rintro ⟨⟨-, rfl⟩, rfl⟩
    exact (eta c).symm
  · rintro rfl
    exact ⟨⟨trivial, (beta a₁ a₂).1⟩, (beta a₁ a₂).2⟩

theorem Reads.three {α₁ α₂ α₃ : Type u} {m₁ : StateT σ (Except ε) α₁}
    {m₂ : StateT σ (Except ε) α₂} {m₃ : StateT σ (Except ε) α₃}
    {e₁ : α₁ → List β} {e₂ : α₂ → List β} {e₃ : α₃ → List β} {n₁ n₂ n₃ : Nat}
    (h₁ : Reads view eof (fun _ => True) m₁ e₁ n₁) (h₂ : Reads view eof (fun _ => True) m₂ e₂ n₂)
    (h₃ : Reads view eof (fun _ => True) m₃ e₃ n₃)
    (mk : α₁ → α₂ → α₃ → γ) (p₁ : γ → α₁) (p₂ : γ → α₂) (p₃ : γ → α₃)
    (eta : ∀ c, mk (p₁ c) (p₂ c) (p₃ c) = c)
    (beta : ∀ a₁ a₂ a₃, p₁ (mk a₁ a₂ a₃) = a₁ ∧ p₂ (mk a₁ a₂ a₃) = a₂ ∧ p₃ (mk a₁ a₂ a₃) = a₃) :
    Reads view eof (fun _ => True)
      (m₁ >>= fun a₁ => m₂ >>= fun a₂ => m₃ >>= fun a₃ => Pure.pure (mk a₁ a₂ a₃))
      (fun c => e₁ (p₁ c) ++ e₂ (p₂ c) ++ e₃ (p₃ c)) (n₁ + (n₂ + n₃)) := by
  refine (h₁.field p₁ fun a₁ => h₂.field p₂ fun a₂ => h₃.field p₃ fun a₃ =>
    Reads.pure (x := mk a₁ a₂ a₃) fun c => ?_).congr fun _ => by
      rw [List.append_nil, List.append_assoc]
  constructor
  · rintro ⟨⟨⟨-, rfl⟩, rfl⟩, rfl⟩
    exact (eta c).symm
  · rintro rfl
    obtain ⟨h₁, h₂, h₃⟩ := beta a₁ a₂ a₃
    exact ⟨⟨⟨trivial, h₁⟩, h₂⟩, h₃⟩

def many (m : StateT σ (Except ε) α) : Nat → StateT σ (Except ε) (List α)
  | 0 => Pure.pure []
  | k+1 => do
    let x ← m
    let xs ← many m k
    Pure.pure (x :: xs)

theorem Reads.many {m : StateT σ (Except ε) α} {e : α → List β} {n : Nat}
    (h : Reads view eof (fun _ => True) m e n) (k : Nat) :
    Reads view eof (fun xs => xs.length = k) (many m k) (fun xs => xs.flatMap e) (k * n) := by
  induction k with
  | zero =>
    have hp : Reads view eof (fun xs : List α => xs.length = 0) (Pure.pure []) (fun _ => []) 0 :=
      Reads.pure fun xs => List.length_eq_zero_iff
    refine ⟨?_, ?_, ?_, ?_⟩
    · intro xs hxs
      simp [List.length_eq_zero_iff.mp hxs]
    · intro s xs t hxs hs
      exact hp.hit s xs t hxs (by simpa [List.length_eq_zero_iff.mp hxs] using hs)
    · intro s _
      exact ⟨[], s, rfl, rfl, by simp⟩
    · intro s hs
      exact absurd hs (by omega)
  -- too little input for all stops in the first item or after it, in the rest
  | succ k ih =>
    refine ⟨?_, ?_, ?_, ?_⟩
    · intro xs hxs
      obtain ⟨x, ys, rfl⟩ := List.exists_cons_of_length_eq_add_one hxs
      have hys : ys.length = k := by simpa using hxs
      rw [List.flatMap_cons, List.length_append, h.width x trivial, ih.width ys hys, Nat.succ_mul]
      omega
    · intro s xs t hxs hs
      obtain ⟨x, ys, rfl⟩ := List.exists_cons_of_length_eq_add_one hxs
      have hys : ys.length = k := by simpa using hxs
      rw [List.flatMap_cons, List.append_assoc] at hs
      obtain ⟨s₁, h₁, hv₁⟩ := h.hit s x _ trivial hs
      obtain ⟨s₂, h₂, hv₂⟩ := ih.hit s₁ ys t hys hv₁
      exact ⟨s₂, (bind_ok h₁).trans ((bind_ok h₂).trans rfl), hv₂⟩
    · intro s hs
      rw [Nat.succ_mul] at hs
      obtain ⟨x, s₁, h₁, -, hv₁⟩ := h.cover s (by omega)
      have hl := h.split_length trivial hv₁
      obtain ⟨ys, s₂, h₂, hys, hv₂⟩ := ih.cover s₁ (by omega)
      refine ⟨x :: ys, s₂, (bind_ok h₁).trans ((bind_ok h₂).trans rfl), by simp [hys], ?_⟩
      rw [List.flatMap_cons, List.append_assoc, hv₁, hv₂]
    · intro s hs
      rw [Nat.succ_mul] at hs
      by_cases hn : (view s).length < n
      · exact bind_error (h.miss s hn)
      · obtain ⟨x, s₁, h₁, -, hv₁⟩ := h.cover s (by omega)
        have hl := h.split_length trivial hv₁
        rw [show Lib.ExactReader.many m (k+1) = m >>= fun x => Lib.ExactReader.many m k >>=
          fun xs => Pure.pure (x :: xs) from rfl, bind_ok h₁]
        exact bind_error (ih.miss s₁ (by omega))

/-- A decoder of whole strings is exact for an encoder: decoding takes the encoding
back off any string that starts with it, accepts nothing else, and its only failure
is a string shorter than `need` says. -/
structure Exact (dec : List β → Except ε α) (enc : α → List β) (P : α → Prop)
    (need : List β → Nat) (eof : ε) : Prop where
  decode_encode : ∀ x t, P x → dec (enc x ++ t) = .ok x
  encode_decode : ∀ b x, dec b = .ok x → P x ∧ enc x = b.take (need b)
  short_iff : ∀ b, dec b = .error eof ↔ b.length < need b
  only_eof : ∀ b e, dec b = .error e → e = eof

theorem Exact.self {dec : List β → Except ε α} {enc : α → List β} {P : α → Prop}
    {need : List β → Nat} (h : Exact dec enc P need eof) (x : α) (hx : P x) :
    dec (enc x) = .ok x := by
  have hd := h.decode_encode x [] hx
  rwa [List.append_nil] at hd

theorem Exact.ok_iff {dec : List β → Except ε α} {enc : α → List β} {P : α → Prop}
    {need : List β → Nat} (h : Exact dec enc P need eof) (b : List β) :
    (∃ x, dec b = .ok x) ↔ need b ≤ b.length := by
  rw [← Nat.not_lt, ← h.short_iff]
  cases hd : dec b with
  | ok x => simp
  | error e => simp [h.only_eof b e hd]

/-- Exactness from the two sides of the length boundary. -/
theorem Exact.of_boundary {dec : List β → Except ε α} {enc : α → List β} {P : α → Prop}
    {need : List β → Nat} (hit : ∀ x t, P x → dec (enc x ++ t) = .ok x)
    (long : ∀ b, need b ≤ b.length → ∃ x, dec b = .ok x ∧ P x ∧ enc x = b.take (need b))
    (short : ∀ b, b.length < need b → dec b = .error eof) : Exact dec enc P need eof := by
  refine ⟨hit, ?_, ?_, ?_⟩
  · intro b x hd
    by_cases hb : b.length < need b
    · rw [short b hb] at hd
      cases hd
    · obtain ⟨y, hy, hP, he⟩ := long b (by omega)
      rw [hy] at hd
      cases hd
      exact ⟨hP, he⟩
  · intro b
    constructor
    · intro hd
      by_contra hb
      obtain ⟨y, hy, -⟩ := long b (by omega)
      rw [hy] at hd
      cases hd
    · exact short b
  · intro b e hd
    by_cases hb : b.length < need b
    · rw [short b hb] at hd
      cases hd
      rfl
    · obtain ⟨y, hy, -⟩ := long b (by omega)
      rw [hy] at hd
      cases hd

theorem run_ok {m : StateT σ (Except ε) α} {s s' : σ} {x : α} (h : m s = .ok (x, s')) :
    m.run' s = .ok x := by
  change (fun p : α × σ => p.1) <$> m s = .ok x
  rw [h]
  rfl

theorem run_error {m : StateT σ (Except ε) α} {s : σ} {e : ε} (h : m s = .error e) :
    m.run' s = .error e := by
  change (fun p : α × σ => p.1) <$> m s = .error e
  rw [h]
  rfl

theorem Reads.exact {P : α → Prop} {m : StateT σ (Except ε) α} {enc : α → List β} {n : Nat}
    (h : Reads view eof P m enc n) (start : List β → σ) (hstart : ∀ b, view (start b) = b) :
    Exact (fun b => m.run' (start b)) enc P (fun _ => n) eof := by
  refine Exact.of_boundary ?_ ?_ ?_
  · intro x t hx
    obtain ⟨s', hm, -⟩ := h.hit (start (enc x ++ t)) x t hx (hstart _)
    exact run_ok hm
  · intro b hb
    obtain ⟨x, s', hm, hx, hv⟩ := h.cover (start b) (by rwa [hstart])
    rw [hstart] at hv
    refine ⟨x, run_ok hm, hx, ?_⟩
    rw [hv, ← h.width x hx, List.take_left]
  · intro b hb
    exact run_error (h.miss (start b) (by rwa [hstart]))

/-- A decoder whose width depends on a value it reads first: `head` is that value,
read straight off the string. -/
theorem Reads.exact_bind {P : γ → Prop} {m : StateT σ (Except ε) α}
    {f : α → StateT σ (Except ε) γ} {e₁ : α → List β} {e₂ : γ → List β} {n₁ : Nat} {w : α → Nat}
    (hm : Reads view eof (fun _ => True) m e₁ n₁) (proj : γ → α) (head : List β → α)
    (hhead : ∀ a t, head (e₁ a ++ t) = a)
    (hf : ∀ a, Reads view eof (fun c => P c ∧ proj c = a) (f a) e₂ (w a))
    (start : List β → σ) (hstart : ∀ b, view (start b) = b) :
    Exact (fun b => (m >>= f).run' (start b)) (fun c => e₁ (proj c) ++ e₂ c) P
      (fun b => n₁ + w (head b)) eof := by
  refine Exact.of_boundary ?_ ?_ ?_
  · intro c t hc
    obtain ⟨s₁, h₁, hv₁⟩ := hm.hit (start (e₁ (proj c) ++ e₂ c ++ t)) (proj c) (e₂ c ++ t) trivial
      (by rw [hstart, List.append_assoc])
    obtain ⟨s₂, h₂, -⟩ := (hf (proj c)).hit s₁ c t ⟨hc, rfl⟩ hv₁
    exact run_ok ((bind_ok h₁).trans h₂)
  · intro b hb
    obtain ⟨a, s₁, h₁, -, hv₁⟩ := hm.cover (start b) (by rw [hstart]; omega)
    have hl := hm.split_length trivial hv₁
    rw [hstart] at hv₁ hl
    have ha : head b = a := by rw [hv₁, hhead]
    rw [ha] at hb ⊢
    obtain ⟨c, s₂, h₂, ⟨hc, rfl⟩, hv₂⟩ := (hf a).cover s₁ (by omega)
    have hw : (e₁ (proj c) ++ e₂ c).length = n₁ + w (proj c) := by
      rw [List.length_append, hm.width _ trivial, (hf _).width c ⟨hc, rfl⟩]
    refine ⟨c, run_ok ((bind_ok h₁).trans h₂), hc, ?_⟩
    rw [hv₁, hv₂, ← List.append_assoc, ← hw, List.take_left]
  · intro b hb
    by_cases hn : b.length < n₁
    · exact run_error (bind_error (hm.miss (start b) (by rwa [hstart])))
    · obtain ⟨a, s₁, h₁, -, hv₁⟩ := hm.cover (start b) (by rw [hstart]; omega)
      have hl := hm.split_length trivial hv₁
      rw [hstart] at hv₁ hl
      have ha : head b = a := by rw [hv₁, hhead]
      rw [ha] at hb
      exact run_error ((bind_ok h₁).trans ((hf a).miss s₁ (by omega)))

end Lib.ExactReader
