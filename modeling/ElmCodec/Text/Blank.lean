/-
**Blank characters and trimming.**

A character is blank when it has the Unicode property `White_Space`. A text is trimmed by dropping
the blank characters at its two ends; it is blank when nothing is left.

* `trimChars_eq_nil_iff` — nothing is left exactly of a text of blank characters.
-/

namespace ElmCodec.Text

/-- The characters with the property `White_Space`. -/
def isBlank (c : Char) : Bool :=
  let code := c.toNat
  (0x9 ≤ code && code ≤ 0xD) || code == 0x20 || code == 0x85 || code == 0xA0 || code == 0x1680 ||
    (0x2000 ≤ code && code ≤ 0x200A) || code == 0x2028 || code == 0x2029 || code == 0x202F ||
    code == 0x205F || code == 0x3000

/-- Drops what satisfies a predicate at the end of a list. -/
def dropEnd {α : Type} (drop : α → Bool) (items : List α) : List α :=
  (items.reverse.dropWhile drop).reverse

/-- A text without the blank characters at its two ends. -/
def trimChars (cs : List Char) : List Char := dropEnd isBlank (cs.dropWhile isBlank)

/-- A text without the blank characters at its two ends. -/
def trim (text : String) : String := String.ofList (trimChars text.toList)

/-- Whether a text has no other character than blank ones. -/
def isBlankText (text : String) : Bool := text.toList.all isBlank

/-! ### What trimming leaves -/

theorem dropWhile_eq_nil {α : Type} {drop : α → Bool} {items : List α} :
    items.dropWhile drop = [] ↔ ∀ item ∈ items, drop item := by
  induction items with
  | nil => simp
  | cons head rest ih =>
    by_cases h : drop head <;> simp [h, ih]

theorem dropEnd_eq_nil {α : Type} {drop : α → Bool} {items : List α} :
    dropEnd drop items = [] ↔ ∀ item ∈ items, drop item := by
  rw [dropEnd, List.reverse_eq_nil_iff, dropWhile_eq_nil]
  simp

theorem all_of_all_dropWhile {α : Type} {drop : α → Bool} {items : List α}
    (rest : ∀ item ∈ items.dropWhile drop, drop item) : ∀ item ∈ items, drop item := by
  induction items with
  | nil => simp
  | cons head tail ih =>
    by_cases h : drop head
    · rw [List.dropWhile_cons_of_pos h] at rest
      exact List.forall_mem_cons.mpr ⟨h, ih rest⟩
    · rwa [List.dropWhile_cons_of_neg (by simpa using h)] at rest

/-- Nothing is left exactly of a text of blank characters. -/
theorem trimChars_eq_nil_iff {cs : List Char} : trimChars cs = [] ↔ cs.all isBlank := by
  rw [trimChars, dropEnd_eq_nil, List.all_eq_true]
  exact ⟨all_of_all_dropWhile, fun all item member =>
    all item ((List.dropWhile_sublist isBlank).subset member)⟩

end ElmCodec.Text
