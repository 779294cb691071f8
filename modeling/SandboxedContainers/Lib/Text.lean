import Mathlib

/-!
# Texts

Prefixes, suffixes and substrings of a text, and lists of texts written into one text
with a separator between them.  Every operation goes through the characters of the text.
-/

namespace SandboxedContainers.Lib.Text

def startsWith (start text : String) : Bool := start.toList.isPrefixOf text.toList

def endsWith (ending text : String) : Bool := ending.toList.isSuffixOf text.toList

def contains (part text : String) : Bool := decide (part.toList <:+: text.toList)

def join (separator : Char) (texts : List String) : String :=
  String.ofList ([separator].intercalate (texts.map String.toList))

def split (separator : Char) (text : String) : List String :=
  (text.toList.splitOn separator).map String.ofList

section Start

variable {start longer text : String}

theorem startsWith_iff : startsWith start text = true ↔ start.toList <+: text.toList :=
  List.isPrefixOf_iff_prefix

theorem startsWith_of_within (within : start.toList <+: longer.toList)
    (starts : startsWith longer text = true) : startsWith start text = true := by
  rw [startsWith_iff] at starts ⊢
  exact within.trans starts

theorem not_startsWith (apart : ¬ start.toList <+: longer.toList) (apart' : ¬ longer.toList <+: start.toList)
    (starts : startsWith start text = true) : startsWith longer text = false := by
  rw [Bool.eq_false_iff]
  intro other
  rw [startsWith_iff] at starts other
  rcases List.prefix_or_prefix_of_prefix starts other with within | within
  · exact apart within
  · exact apart' within

end Start

section Separator

variable {separator : Char} {texts : List String}

theorem splitOn_intercalate_eq_flatMap {α : Type} [BEq α] [LawfulBEq α] (x : α) :
    ∀ {ls : List (List α)}, ls ≠ [] → ([x].intercalate ls).splitOn x = ls.flatMap (·.splitOn x)
  | [], nonempty => absurd rfl nonempty
  | [l], _ => by simp [List.intercalate]
  | l :: l' :: rest, _ => by
    rw [List.intercalate_cons_cons, List.append_assoc, List.singleton_append,
      List.splitOn_append_cons_self, splitOn_intercalate_eq_flatMap x (List.cons_ne_nil l' rest)]
    rfl

/-- Reading a joined list back: a text that has the separator in it comes back in pieces. -/
theorem split_join (nonempty : texts ≠ []) :
    split separator (join separator texts) = texts.flatMap (split separator) := by
  have mapped : texts.map String.toList ≠ [] := by simpa using nonempty
  rw [split, join, String.toList_ofList, splitOn_intercalate_eq_flatMap separator mapped]
  simp only [List.flatMap_map, List.map_flatMap]
  rfl

theorem split_eq_singleton {text : String} (plain : separator ∉ text.toList) :
    split separator text = [text] := by
  rw [split, List.splitOn_eq_singleton plain, List.map_singleton, String.ofList_toList]

end Separator

end SandboxedContainers.Lib.Text
