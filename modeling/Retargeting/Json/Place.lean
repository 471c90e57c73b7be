/- Messages that end in a place of a document, as in "no colon at line 3 column 7".
   A place is read off the end of a message, also of one that ends in words of the
   document, and written anew: its numbers lose their leading zeros, and a place
   on line zero, which no document has, is left out. Main statement: a place that
   was written is read off again (`splitPlace?_append`). -/
namespace Retargeting.Json

/-- A place in a document. Lines and columns are counted from one. -/
structure Place where
  line : Nat
  column : Nat
  deriving DecidableEq

def atLine : List Char := [' ', 'a', 't', ' ', 'l', 'i', 'n', 'e', ' ']

def atColumn : List Char := [' ', 'c', 'o', 'l', 'u', 'm', 'n', ' ']

/-- Takes a word off the end of a text. -/
def splitWord? (word cs : List Char) : Option (List Char) :=
  if word <:+ cs then some (cs.take (cs.length - word.length)) else none

theorem splitWord?_append (word text : List Char) : splitWord? word (text ++ word) = some text := by
  simp [splitWord?]

/-- Takes a number below 2^64 off the end of a text. -/
def splitNumber? (cs : List Char) : Option (List Char × Nat) :=
  let digits := (cs.reverse.takeWhile Char.isDigit).reverse
  let n := Nat.ofDigitChars 10 digits 0
  if digits = [] ∨ 0x10000000000000000 ≤ n then none
  else some ((cs.reverse.dropWhile Char.isDigit).reverse, n)

/-- Digits are taken off up to the first character that is none. -/
theorem splitNumber?_append (text : List Char) (c : Char) (hc : c.isDigit = false) {n : Nat}
    (hn : n < 0x10000000000000000) :
    splitNumber? (text ++ [c] ++ Nat.toDigits 10 n) = some (text ++ [c], n) := by
  have hd : ∀ d ∈ (Nat.toDigits 10 n).reverse, d.isDigit = true := fun d h =>
    Nat.isDigit_of_mem_toDigits (by decide) (by decide) (List.mem_reverse.1 h)
  have ht : ((text ++ [c] ++ Nat.toDigits 10 n).reverse.takeWhile Char.isDigit).reverse
      = Nat.toDigits 10 n := by
    rw [List.reverse_append, List.takeWhile_append_of_pos hd]
    simp [hc]
  have hr : ((text ++ [c] ++ Nat.toDigits 10 n).reverse.dropWhile Char.isDigit).reverse
      = text ++ [c] := by
    rw [List.reverse_append, List.dropWhile_append_of_pos hd]
    simp [hc]
  have hne : Nat.toDigits 10 n ≠ [] := Nat.toDigits_ne_nil
  rw [splitNumber?, ht, hr, Nat.ofDigitChars_toDigits (by decide) (by decide)]
  simp [hne, hn]

/-- Takes a place off the end of a text. -/
def splitPlace? (cs : List Char) : Option (List Char × Place) :=
  (splitNumber? cs).bind fun (cs, column) => (splitWord? atColumn cs).bind fun cs =>
    (splitNumber? cs).bind fun (cs, line) => (splitWord? atLine cs).map fun cs =>
      (cs, ⟨line, column⟩)

/-- A place as the end of a message. -/
def Place.written (p : Place) : List Char :=
  if p.line = 0 then []
  else atLine ++ Nat.toDigits 10 p.line ++ atColumn ++ Nat.toDigits 10 p.column

/-- A place that was written is read off again. -/
theorem splitPlace?_append (text : List Char) (p : Place) (h : p.line ≠ 0)
    (hl : p.line < 0x10000000000000000) (hc : p.column < 0x10000000000000000) :
    splitPlace? (text ++ p.written) = some (text, p) := by
  have hw : text ++ p.written
      = (text ++ atLine ++ Nat.toDigits 10 p.line ++ atColumn.dropLast) ++ [' ']
        ++ Nat.toDigits 10 p.column := by
    simp [Place.written, h, atLine, atColumn]
  have hm : text ++ atLine ++ Nat.toDigits 10 p.line ++ atColumn.dropLast ++ [' ']
      = text ++ atLine.dropLast ++ [' '] ++ Nat.toDigits 10 p.line ++ atColumn := by
    simp [atLine, atColumn]
  have ha : text ++ atLine.dropLast ++ [' '] = text ++ atLine := by simp [atLine]
  rw [splitPlace?, hw, splitNumber?_append _ _ (by decide) hc]
  simp only [Option.bind_some, hm, splitWord?_append]
  rw [splitNumber?_append _ _ (by decide) hl]
  simp only [Option.bind_some, ha, splitWord?_append, Option.map_some]

/-- The message with the place at its end written anew. -/
def placed (message : List Char) : List Char :=
  match splitPlace? message with
  | none => message
  | some (text, place) => text ++ place.written

end Retargeting.Json
