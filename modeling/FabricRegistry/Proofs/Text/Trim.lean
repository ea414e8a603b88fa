import FabricRegistry.Text.Blank

/-!
Trimming a text. What is left begins and ends with no blank, and the text is made of it and of
blanks at both its ends; nothing else is left so (`stripped_iff`).
-/

namespace FabricRegistry.Text

variable {s t front back : List Char}

/-- `t` is left of the text when the blanks at both its ends are taken away. -/
structure Stripped (s t : List Char) : Prop where
  parts : ∃ front back, allBlank front ∧ allBlank back ∧ s = front ++ t ++ back
  head : ∀ c ∈ t.head?, isBlank c = false
  last : ∀ c ∈ t.getLast?, isBlank c = false

/-! ### Blanks in front -/

theorem exists_blank_front (s : List Char) : ∃ front, allBlank front ∧ s = front ++ trimFront s :=
  ⟨s.takeWhile isBlank, List.all_takeWhile, List.takeWhile_append_dropWhile.symm⟩

theorem head?_trimFront (s : List Char) : ∀ c ∈ (trimFront s).head?, isBlank c = false := by
  intro c hc
  obtain ⟨rest, hrest⟩ := List.head?_eq_some_iff.mp hc
  exact isBlank_of_trimFront hrest

theorem trimFront_append (h : allBlank front) : trimFront (front ++ s) = trimFront s :=
  List.dropWhile_append_of_pos (List.all_eq_true.mp h)

theorem trimFront_of_head (h : ∀ c ∈ s.head?, isBlank c = false) : trimFront s = s := by
  cases s with
  | nil => rfl
  | cons c rest => simp [trimFront, h c rfl]

/-! ### Blanks at both ends -/

theorem stripped_trim (s : List Char) : Stripped s (trim s) := by
  obtain ⟨front, hfront, hs⟩ := exists_blank_front s
  obtain ⟨back, hback, hreverse⟩ := exists_blank_front (trimFront s).reverse
  have hparts : trimFront s = trim s ++ back.reverse := by
    rw [trim, ← List.reverse_append, ← hreverse, List.reverse_reverse]
  refine ⟨⟨front, back.reverse, hfront, by simpa [allBlank] using hback, ?_⟩, ?_, ?_⟩
  · rw [List.append_assoc, ← hparts]
    exact hs
  · intro c hc
    refine head?_trimFront s c ?_
    rw [hparts, List.head?_append]
    simp [Option.mem_def.mp hc]
  · intro c hc
    refine head?_trimFront (trimFront s).reverse c ?_
    rwa [trim, List.getLast?_reverse] at hc

theorem Stripped.trim_eq (h : Stripped s t) : trim s = t := by
  obtain ⟨front, back, hfront, hback, rfl⟩ := h.parts
  rw [trim, List.append_assoc, trimFront_append hfront]
  cases t with
  | nil =>
    have hnil : trimFront back = [] := trimFront_eq_nil_iff.mpr hback
    rw [List.nil_append, hnil]
    rfl
  | cons c rest =>
    have hback' : allBlank back.reverse := by simpa [allBlank] using hback
    have hfirst : trimFront ((c :: rest) ++ back) = (c :: rest) ++ back :=
      trimFront_of_head fun d hd => h.head d (by simpa using hd)
    have hlast : trimFront (c :: rest).reverse = (c :: rest).reverse :=
      trimFront_of_head fun d hd => h.last d (by rwa [List.head?_reverse] at hd)
    rw [hfirst, List.reverse_append, trimFront_append hback', hlast, List.reverse_reverse]

/-- **What is left after trimming.** -/
theorem stripped_iff : Stripped s t ↔ t = trim s :=
  ⟨fun h => h.trim_eq.symm, fun h => h ▸ stripped_trim s⟩

end FabricRegistry.Text
