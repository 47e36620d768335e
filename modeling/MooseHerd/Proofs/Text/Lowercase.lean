import MooseHerd.Text.Lowercase

/-! # Lower case is a projection

The lower-case form of a character is never one that has another lower-case form, so putting a text
in lower case twice is the same as once. Besides, how a text begins in lower case depends on its
first character only, although the form of a sigma depends on its neighbours. -/

namespace MooseHerd.Text

/-! ## The table of upper-case letters -/

/-- The lower-case form of the first letter of a run. -/
def CaseRun.low (run : CaseRun) : Nat := (run.first + run.offset).toNat

/-- The lower-case form of the last letter of a run. -/
def CaseRun.high (run : CaseRun) : Nat := (run.last + run.offset).toNat

/-- Whether no lower-case form of the first run is a letter of the second: the ranges lie apart, or
they are every other character and interleave. -/
def CaseRun.misses (run other : CaseRun) : Bool :=
  Nat.blt other.last run.low || Nat.blt run.high other.first ||
    ((Nat.beq run.step 2 || Nat.beq run.first run.last) && Nat.beq other.step 2 &&
      Nat.beq ((run.low + other.first) % 2) 1)

/-- Whether the lower-case forms of a run are characters, other than the dotted capital I, that no
run covers; those in ASCII have to be small letters. -/
def CaseRun.isSettled (run : CaseRun) : Bool :=
  Nat.ble run.first run.last && decide (0 ≤ run.first + run.offset) &&
    (Nat.blt run.high 0xd800 || Nat.blt 0xdfff run.low && Nat.blt run.high 0x110000) &&
    (Nat.blt run.high 0x130 || Nat.blt 0x130 run.low) &&
    (Nat.ble 0x80 run.low || Nat.ble 0x61 run.low && Nat.ble run.high 0x7a) &&
    caseRuns.all run.misses

/-- Every pair of runs is compared once; the runs together cover too many letters to go through
them one by one. -/
theorem caseRuns_settled : caseRuns.all CaseRun.isSettled = true := by decide +kernel

/-- Where the lower-case form of a covered letter lies. -/
theorem CaseRun.offset_of_covers {run : CaseRun} {n : Nat} (h : run.covers n = true)
    (hle : 0 ≤ run.first + run.offset) :
    ∃ i, (n + run.offset).toNat = run.low + i ∧ run.low + i ≤ run.high ∧ i % run.step = 0 ∧
      run.first + i = n := by
  simp only [covers, Bool.and_eq_true, decide_eq_true_eq, beq_iff_eq] at h
  obtain ⟨⟨hf, hl⟩, hs⟩ := h
  refine ⟨n - run.first, ?_, ?_, hs, by omega⟩ <;> simp only [low, high] <;> omega

theorem CaseRun.not_covers_of_misses {run other : CaseRun} {i : Nat}
    (h : run.misses other = true) (hi : run.low + i ≤ run.high) (hs : i % run.step = 0)
    (hlast : run.first + i ≤ run.last) : other.covers (run.low + i) = false := by
  rw [Bool.eq_false_iff]
  intro hc
  simp only [covers, Bool.and_eq_true, decide_eq_true_eq, beq_iff_eq] at hc
  obtain ⟨⟨hf, hl⟩, ho⟩ := hc
  simp only [misses, Bool.or_eq_true, Bool.and_eq_true, Nat.blt_eq, Nat.beq_eq] at h
  rcases h with (h | h) | ⟨⟨hstep, htwo⟩, hodd⟩
  · omega
  · omega
  · rw [htwo] at ho
    have heven : i % 2 = 0 := by
      rcases hstep with hstep | hone
      · rwa [hstep] at hs
      · have : i = 0 := by omega
        simp [this]
    omega

/-! ## Characters that stay as they are -/

/-- A character that is its own lower-case form wherever it stands. -/
structure IsSettled (c : Char) : Prop where
  lowerChar_eq : lowerChar c = [c]
  ne_sigma : c ≠ 'Σ'

theorem toNat_ofNat_of_lt {n : Nat} (h : n < 0xd800 ∨ 0xdfff < n ∧ n < 0x110000) :
    (Char.ofNat n).toNat = n := by
  have hv : n.isValidChar := by unfold Nat.isValidChar; omega
  rw [Char.ofNat, dif_pos hv]
  rfl

theorem isSettled_toLower {c : Char} (h : c.toNat < 0x80) : IsSettled c.toLower := by
  have hall : ∀ n : Fin 0x80, lowerChar (Char.ofNat n).toLower = [(Char.ofNat n).toLower] ∧
      (Char.ofNat n).toLower ≠ 'Σ' := by decide +kernel
  have hc := hall ⟨c.toNat, h⟩
  rw [Char.ofNat_toNat] at hc
  exact ⟨hc.1, hc.2⟩

/-- A character outside of ASCII that no run covers. -/
theorem isSettled_of_not_covered {c : Char} (hc : 0x80 ≤ c.toNat) (hi : c ≠ 'İ')
    (h : ∀ run ∈ caseRuns, run.covers c.toNat = false) : IsSettled c where
  lowerChar_eq := by
    have hnone : caseRuns.find? (·.covers c.toNat) = none := by
      simpa [List.find?_eq_none] using h
    simp [lowerChar, lowerSimple, hi, Nat.not_lt.mpr hc, hnone]
  ne_sigma := by
    rintro rfl
    have hany : caseRuns.any (·.covers 'Σ'.toNat) = true := by decide +kernel
    obtain ⟨run, hr, hc⟩ := List.any_eq_true.mp hany
    rw [h run hr] at hc
    contradiction

/-- The lower-case form of a covered letter, as a place in the range of the forms. -/
theorem CaseRun.exists_toNat_eq {run : CaseRun} {c : Char} (hs : run.isSettled = true)
    (h : run.covers c.toNat = true) :
    ∃ i, (Char.ofNat (c.toNat + run.offset).toNat).toNat = run.low + i ∧
      run.low + i ≤ run.high ∧ i % run.step = 0 ∧ run.first + i ≤ run.last := by
  simp only [isSettled, Bool.and_eq_true, Bool.or_eq_true, Nat.blt_eq, Nat.ble_eq,
    decide_eq_true_eq] at hs
  obtain ⟨⟨⟨⟨⟨hle, hpos⟩, hvalid⟩, -⟩, -⟩, -⟩ := hs
  obtain ⟨i, hi, hhigh, hstep, -⟩ := offset_of_covers h hpos
  have hlast : run.first + i ≤ run.last := by
    simp only [low, high] at hhigh
    omega
  rw [hi]
  exact ⟨i, toNat_ofNat_of_lt (by omega), hhigh, hstep, hlast⟩

theorem isSettled_of_covers {run : CaseRun} {c : Char} (hr : run ∈ caseRuns)
    (h : run.covers c.toNat = true) : IsSettled (Char.ofNat (c.toNat + run.offset).toNat) := by
  have hs := List.all_eq_true.mp caseRuns_settled run hr
  obtain ⟨i, hto, hhigh, hstep, hlast⟩ := CaseRun.exists_toNat_eq hs h
  simp only [CaseRun.isSettled, Bool.and_eq_true, Bool.or_eq_true, Nat.blt_eq, Nat.ble_eq,
    decide_eq_true_eq] at hs
  obtain ⟨⟨⟨-, hdot⟩, hascii⟩, hmiss⟩ := hs
  generalize Char.ofNat (c.toNat + run.offset).toNat = d at hto
  by_cases hsmall : d.toNat < 0x80
  · have hl : d.toLower = d := by
      have hall : ∀ n : Fin 0x80, 0x61 ≤ n.val → (Char.ofNat n).toLower = Char.ofNat n := by
        decide +kernel
      rw [← Char.ofNat_toNat d]
      exact hall ⟨d.toNat, hsmall⟩ (by simp only; omega)
    rw [← hl]
    exact isSettled_toLower hsmall
  · apply isSettled_of_not_covered (by omega)
    · intro he
      have hdotted : d.toNat = 0x130 := by rw [he]; rfl
      omega
    · intro other ho
      rw [hto]
      exact CaseRun.not_covers_of_misses (List.all_eq_true.mp hmiss other ho) hhigh hstep hlast

theorem isSettled_lowerSimple {c : Char} (h : c ≠ 'İ') : IsSettled (lowerSimple c) := by
  unfold lowerSimple
  split
  · rename_i hc
    exact isSettled_toLower hc
  · rename_i hc
    split
    · rename_i run hrun
      have hc := List.find?_some hrun
      exact isSettled_of_covers (List.mem_of_find?_eq_some hrun) hc
    · rename_i hnone
      exact isSettled_of_not_covered (by omega) h (by simpa [List.find?_eq_none] using hnone)

theorem isSettled_of_mem_lowerChar {c d : Char} (h : d ∈ lowerChar c) : IsSettled d := by
  unfold lowerChar at h
  split at h
  · have hd : d = 'i' ∨ d = '\u0307' := by simpa using h
    rcases hd with rfl | rfl <;> exact ⟨by decide +kernel, by decide⟩
  · rename_i hc
    rw [List.mem_singleton.mp h]
    exact isSettled_lowerSimple hc

/-! ## Whole texts -/

theorem isSettled_lowerSigma (before after : List Char) :
    IsSettled (lowerSigma before after) := by
  unfold lowerSigma
  split <;> exact ⟨by decide +kernel, by decide⟩

theorem isSettled_of_mem_lowerAfter {d : Char} :
    ∀ {before cs : List Char}, d ∈ lowerAfter before cs → IsSettled d
  | _, [], h => by simp [lowerAfter] at h
  | before, c :: rest, h => by
    simp only [lowerAfter, List.mem_append] at h
    rcases h with h | h
    · split at h
      · rw [List.mem_singleton.mp h]
        exact isSettled_lowerSigma before rest
      · exact isSettled_of_mem_lowerChar h
    · exact isSettled_of_mem_lowerAfter h

/-- A text of settled characters is its own lower-case form. -/
theorem lowerAfter_of_isSettled : ∀ {before cs : List Char}, (∀ c ∈ cs, IsSettled c) →
    lowerAfter before cs = cs
  | _, [], _ => rfl
  | before, c :: rest, h => by
    have hc := h c (by simp)
    rw [lowerAfter_cons hc.ne_sigma, hc.lowerChar_eq,
      lowerAfter_of_isSettled fun d hd => h d (by simp [hd])]
    rfl

@[simp]
theorem toList_lowercase (s : String) : (lowercase s).toList = lowerAfter [] s.toList := by
  simp [lowercase]

/-- **Putting a text in lower case twice is the same as once.** -/
theorem lowercase_lowercase (s : String) : lowercase (lowercase s) = lowercase s := by
  apply String.toList_injective
  rw [toList_lowercase, toList_lowercase]
  exact lowerAfter_of_isSettled fun _ => isSettled_of_mem_lowerAfter

/-- The first character of a text is put in lower case as if it stood alone: nothing before it can
make a sigma final. -/
theorem lowerAfter_nil_cons (c : Char) (rest : List Char) :
    lowerAfter [] (c :: rest) = lowerChar c ++ lowerAfter [c] rest := by
  by_cases hc : c = 'Σ'
  · subst hc
    have hs : lowerChar 'Σ' = ['σ'] := by decide +kernel
    simp [lowerAfter, lowerSigma, meetsCased, hs]
  · exact lowerAfter_cons hc [] rest

theorem lowerChar_ne_nil (c : Char) : lowerChar c ≠ [] := by
  unfold lowerChar
  split <;> simp

theorem lowerChar_of_ne {c : Char} (h : c ≠ 'İ') : lowerChar c = [lowerSimple c] := by
  simp [lowerChar, h]

/-! ## The letter i

The dotted capital I is the one letter with two characters in lower case, the first of them the
small i. So of two texts with one lower-case form the first characters may differ only there. -/

/-- The smallest lower-case form outside of ASCII is the k of the kelvin sign. -/
theorem caseRuns_low : caseRuns.all (fun run => Nat.blt 0x69 run.low) = true := by
  decide +kernel

theorem eq_i_of_lowerSimple_eq {c : Char} (h : lowerSimple c = 'i') : c = 'i' ∨ c = 'I' := by
  unfold lowerSimple at h
  split at h
  · rename_i hc
    have hall : ∀ n : Fin 0x80, (Char.ofNat n).toLower = 'i' →
        Char.ofNat n = 'i' ∨ Char.ofNat n = 'I' := by decide +kernel
    have hc' := hall ⟨c.toNat, hc⟩
    rw [Char.ofNat_toNat] at hc'
    exact hc' h
  · split at h
    · rename_i run hrun
      have hr := List.mem_of_find?_eq_some hrun
      have hc := List.find?_some hrun
      obtain ⟨i, hto, -⟩ := CaseRun.exists_toNat_eq
        (List.all_eq_true.mp caseRuns_settled run hr) hc
      have hlow := List.all_eq_true.mp caseRuns_low run hr
      rw [Nat.blt_eq] at hlow
      rw [h] at hto
      have : 0x69 = run.low + i := hto
      omega
    · exact .inl h

/-- A letter that is not an i has a lower-case form of one character, which is not an i either. -/
theorem lowerChar_of_not_i {c : Char} (h : c ∉ ['i', 'I', 'İ']) :
    lowerChar c = [lowerSimple c] ∧ lowerSimple c ≠ 'i' := by
  simp only [List.mem_cons, List.not_mem_nil, or_false, not_or] at h
  obtain ⟨hsmall, hlarge, hdotted⟩ := h
  refine ⟨lowerChar_of_ne hdotted, fun hi => ?_⟩
  rcases eq_i_of_lowerSimple_eq hi with rfl | rfl
  · exact hsmall rfl
  · exact hlarge rfl

theorem not_i_of_lowerChar_eq {a b : Char} (h : lowerChar a = lowerChar b)
    (hb : b ∉ ['i', 'I', 'İ']) : a ∉ ['i', 'I', 'İ'] := by
  intro ha
  obtain ⟨hone, hne⟩ := lowerChar_of_not_i hb
  have hheads : ['i', 'I', 'İ'].all (fun c => (lowerChar c).head? == some 'i') = true := by
    decide +kernel
  have hhead := beq_iff_eq.mp (List.all_eq_true.mp hheads a ha)
  rw [h, hone] at hhead
  exact hne (Option.some.inj hhead)

/-- Texts with one lower-case form begin with the same letter, if that is not an i. -/
theorem lowerChar_eq_of_lowerAfter_eq {a b : Char} {as bs : List Char}
    (h : lowerAfter [] (a :: as) = lowerAfter [] (b :: bs)) (hb : b ∉ ['i', 'I', 'İ']) :
    lowerChar a = lowerChar b := by
  obtain ⟨hone, hne⟩ := lowerChar_of_not_i hb
  rw [lowerAfter_nil_cons, lowerAfter_nil_cons, hone] at h
  rw [hone]
  by_cases ha : a = 'İ'
  · subst ha
    exact absurd (List.cons.inj h).1.symm hne
  · rw [lowerChar_of_ne ha] at h ⊢
    rw [(List.cons.inj h).1]

end MooseHerd.Text
