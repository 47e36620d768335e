import MooseHerd.Text.Property.WhiteSpace

/-! # Texts without white space around them

A trimmed text is told by what it leaves out: only white space, and all of it at both ends. There is
one such text, and it is the one that `trim` gives. -/

namespace MooseHerd.Text

/-- A text comes from another one by removing the white space at both ends. -/
structure IsTrimmed (s trimmed : String) : Prop where
  /-- Only white space is left out. -/
  removed : ∃ before after : List Char, s.toList = before ++ trimmed.toList ++ after ∧
    (∀ c ∈ before, isWhiteSpace c = true) ∧ ∀ c ∈ after, isWhiteSpace c = true
  first : ∀ c ∈ trimmed.toList.head?, isWhiteSpace c = false
  last : ∀ c ∈ trimmed.toList.getLast?, isWhiteSpace c = false

section

variable {p : Char → Bool} {front rest : List Char}

theorem head?_dropWhile (cs : List Char) : ∀ c ∈ (cs.dropWhile p).head?, p c = false := by
  intro c hc
  have h := List.head?_dropWhile_not p cs
  rw [Option.mem_def.mp hc] at h
  exact h

/-- A front of characters of a kind is dropped, and nothing else if another one comes next. -/
theorem dropWhile_append_eq (hfront : ∀ c ∈ front, p c = true)
    (hrest : ∀ c ∈ rest.head?, p c = false) : (front ++ rest).dropWhile p = rest := by
  rw [List.dropWhile_append_of_pos hfront]
  cases rest with
  | nil => rfl
  | cons c rest =>
    exact List.dropWhile_cons_of_neg (Bool.eq_false_iff.mp (hrest c rfl))

end

theorem isTrimmed_trim (s : String) : IsTrimmed s (trim s) := by
  let rest := s.toList.dropWhile isWhiteSpace
  have htrim : (trim s).toList.reverse = rest.reverse.dropWhile isWhiteSpace := by
    rw [trim, String.toList_ofList, trimList, List.reverse_reverse]
  have hrest : rest = (trim s).toList ++ (rest.reverse.takeWhile isWhiteSpace).reverse := by
    rw [← List.reverse_inj, List.reverse_append, List.reverse_reverse, htrim,
      List.takeWhile_append_dropWhile]
  refine ⟨⟨s.toList.takeWhile isWhiteSpace, (rest.reverse.takeWhile isWhiteSpace).reverse,
    ?_, ?_, ?_⟩, ?_, ?_⟩
  · rw [List.append_assoc, ← hrest]
    exact List.takeWhile_append_dropWhile.symm
  · exact List.all_eq_true.mp List.all_takeWhile
  · exact fun c hc => List.all_eq_true.mp List.all_takeWhile c (List.mem_reverse.mp hc)
  · intro c hc
    -- what is left in front of the removed end starts where the whole rest starts
    refine head?_dropWhile s.toList c ?_
    change c ∈ rest.head?
    rw [hrest, List.head?_append, Option.mem_def.mp hc]
    rfl
  · rw [← List.head?_reverse, htrim]
    exact head?_dropWhile _

theorem isTrimmed_iff {s trimmed : String} : IsTrimmed s trimmed ↔ trimmed = trim s := by
  refine ⟨?_, fun h => h ▸ isTrimmed_trim s⟩
  rintro ⟨⟨before, after, hs, hbefore, hafter⟩, hfirst, hlast⟩
  suffices h : trimList s.toList = trimmed.toList by
    rw [trim, h, String.ofList_toList]
  rw [hs, List.append_assoc]
  by_cases hempty : trimmed.toList = []
  · -- a text of white space only goes as a whole
    have hall : (before ++ after).dropWhile isWhiteSpace = [] := by
      rw [← List.append_nil (before ++ after)]
      exact dropWhile_append_eq (List.forall_mem_append.mpr ⟨hbefore, hafter⟩) nofun
    rw [hempty, List.nil_append, trimList, hall]
    rfl
  · obtain ⟨c, hc⟩ := Option.ne_none_iff_exists'.mp (mt List.head?_eq_none_iff.mp hempty)
    have hhead : ∀ d ∈ (trimmed.toList ++ after).head?, isWhiteSpace d = false := by
      rw [List.head?_append, hc]
      exact fun d hd => hfirst d (hc ▸ hd)
    have hend : ∀ d ∈ trimmed.toList.reverse.head?, isWhiteSpace d = false := by
      rwa [List.head?_reverse]
    rw [trimList, dropWhile_append_eq hbefore hhead, List.reverse_append,
      dropWhile_append_eq (fun d hd => hafter d (List.mem_reverse.mp hd)) hend,
      List.reverse_reverse]

end MooseHerd.Text
