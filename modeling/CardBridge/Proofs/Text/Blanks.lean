import Mathlib.Data.List.TakeWhile
import CardBridge.Text.Blank

/-!
# White space taken away

What is left of a text without the white space around it (`exists_trim`,
`trim_padded`), and what of a text without any (`spaced_squeeze`,
`Spaced.squeeze_eq`).
-/

namespace CardBridge.Text

variable {text core before after kept : List Char} {c : Char}

/-! ## Around a text -/

/-- Nothing but white space. -/
def Blank (text : List Char) : Prop :=
  ∀ c ∈ text, isBlank c = true

/-- No white space at either end. -/
structure Bare (text : List Char) : Prop where
  head : ∀ c ∈ text.head?, isBlank c = false
  last : ∀ c ∈ text.getLast?, isBlank c = false

theorem blank_nil : Blank [] :=
  List.forall_mem_nil _

theorem Blank.append (h : Blank before) (h' : Blank after) :
    Blank (before ++ after) :=
  List.forall_mem_append.mpr ⟨h, h'⟩

theorem Blank.reverse (h : Blank text) : Blank text.reverse :=
  fun c hc => h c (List.mem_reverse.mp hc)

theorem bare_of_not_blank (h : ∀ c ∈ text, isBlank c = false) : Bare text :=
  ⟨fun c hc => h c (List.mem_of_mem_head? hc),
    fun c hc => h c (List.mem_of_mem_getLast? hc)⟩

/-- White space in front is taken away up to where something else begins. -/
theorem dropWhile_blank (hbefore : Blank before)
    (hhead : ∀ c ∈ core.head?, isBlank c = false) :
    (before ++ core).dropWhile isBlank = core := by
  rw [List.dropWhile_append_of_pos hbefore]
  cases core with
  | nil => rfl
  | cons c core =>
    rw [List.dropWhile_cons_of_neg]
    simp [hhead c rfl]

theorem head?_dropWhile_blank (text : List Char) :
    ∀ c ∈ (text.dropWhile isBlank).head?, isBlank c = false := by
  intro c hc
  have hnot := List.head?_dropWhile_not isBlank text
  rw [hc] at hnot
  simpa using hnot

/-- What is left stands between white space, and has none at its ends. -/
theorem exists_trim (text : List Char) :
    Bare (trim text) ∧ ∃ before after, Blank before ∧ Blank after ∧
      text = before ++ trim text ++ after := by
  have hkept : text.dropWhile isBlank =
      trim text ++
        ((text.dropWhile isBlank).reverse.takeWhile isBlank).reverse := by
    rw [trim, ← List.reverse_append, List.takeWhile_append_dropWhile,
      List.reverse_reverse]
  refine ⟨⟨?_, ?_⟩, text.takeWhile isBlank,
    ((text.dropWhile isBlank).reverse.takeWhile isBlank).reverse, ?_, ?_, ?_⟩
  · intro c hc
    refine head?_dropWhile_blank text c ?_
    rw [hkept, List.head?_append, hc]
    rfl
  · rw [trim, List.getLast?_reverse]
    exact head?_dropWhile_blank _
  · exact fun c hc => List.mem_takeWhile_imp hc
  · exact Blank.reverse fun c hc => List.mem_takeWhile_imp hc
  · rw [List.append_assoc, ← hkept, List.takeWhile_append_dropWhile]

theorem trim_padded (hbefore : Blank before) (hafter : Blank after)
    (hcore : Bare core) : trim (before ++ core ++ after) = core := by
  rcases List.eq_nil_or_concat core with rfl | ⟨front, c, rfl⟩
  · have hall : Blank (before ++ [] ++ after) := by
      simpa [Blank, or_imp, forall_and] using ⟨hbefore, hafter⟩
    rw [trim, List.dropWhile_eq_nil_iff.mpr hall]
    rfl
  · have hhead : ∀ d ∈ (front.concat c ++ after).head?, isBlank d = false := by
      intro d hd
      refine hcore.head d ?_
      cases front <;> exact hd
    have hlast : ∀ d ∈ (front.concat c).reverse.head?, isBlank d = false := by
      rw [List.head?_reverse]
      exact hcore.last
    rw [trim, List.append_assoc, dropWhile_blank hbefore hhead,
      List.reverse_append, dropWhile_blank hafter.reverse hlast,
      List.reverse_reverse]

/-! ## Everywhere in a text -/

/-- A text with white space put in anywhere. -/
inductive Spaced : (text spaced : List Char) → Prop
  | nil : Spaced [] []
  | blank {text spaced : List Char} {c : Char} (hc : isBlank c = true)
    (h : Spaced text spaced) : Spaced text (c :: spaced)
  | kept {text spaced : List Char} (c : Char) (h : Spaced text spaced) :
    Spaced (c :: text) (c :: spaced)

theorem spaced_squeeze (text : List Char) : Spaced (squeeze text) text := by
  induction text with
  | nil => exact .nil
  | cons c text ih =>
    cases hc : isBlank c with
    | true =>
      rw [squeeze, List.filter_cons_of_neg (by simp [hc])]
      exact .blank hc ih
    | false =>
      rw [squeeze, List.filter_cons_of_pos (by simp [hc])]
      exact .kept c ih

theorem Spaced.squeeze_eq (h : Spaced kept text)
    (hkept : ∀ c ∈ kept, isBlank c = false) : squeeze text = kept := by
  induction h with
  | nil => rfl
  | blank hc h ih =>
    rw [squeeze, List.filter_cons_of_neg (by simp [hc])]
    exact ih hkept
  | kept c h ih =>
    obtain ⟨hc, hkept⟩ := List.forall_mem_cons.mp hkept
    rw [squeeze, List.filter_cons_of_pos (by simp [hc])]
    exact congrArg (c :: ·) (ih hkept)

end CardBridge.Text
