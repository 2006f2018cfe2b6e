/-! # Text operations

Joining and splitting at separators, endings, and blanks. -/

namespace FactViews.Text

/-- Joins texts with a separator between neighbours. -/
def joinWith (sep : String) : List String → String
  | [] => ""
  | s :: rest => rest.foldl (fun text t => text ++ sep ++ t) s

/-- What is joined to a text later does not depend on it. -/
theorem foldl_append (sep s t : String) (rest : List String) :
    rest.foldl (fun text t => text ++ sep ++ t) (s ++ t) =
      s ++ rest.foldl (fun text t => text ++ sep ++ t) t := by
  induction rest generalizing t with
  | nil => rfl
  | cons u rest ih =>
    rw [List.foldl_cons, List.foldl_cons, ← ih, String.append_assoc, String.append_assoc,
      String.append_assoc]

theorem joinWith_cons_cons (sep s t : String) (rest : List String) :
    joinWith sep (s :: t :: rest) = s ++ sep ++ joinWith sep (t :: rest) :=
  foldl_append sep (s ++ sep) t rest

/-- Cuts a list of characters at every occurrence of a separator. -/
def splitChars (sep : Char) : List Char → List (List Char)
  | [] => [[]]
  | c :: rest =>
    if c = sep then [] :: splitChars sep rest
    else
      match splitChars sep rest with
      | [] => [[c]]
      | part :: parts => (c :: part) :: parts

/-- The parts of a text between the occurrences of a separator; never empty. -/
def splitOn (sep : Char) (s : String) : List String :=
  (splitChars sep s.toList).map String.ofList

/-- Whether a text ends in a given ending. -/
def endsIn (ending s : String) : Bool :=
  ending.toList.isSuffixOf s.toList

/-- White space characters. -/
def isBlank (c : Char) : Bool :=
  let n := c.toNat
  (0x9 ≤ n && n ≤ 0xD) || n == 0x20 || n == 0x85 || n == 0xA0 || n == 0x1680 ||
  (0x2000 ≤ n && n ≤ 0x200A) || n == 0x2028 || n == 0x2029 || n == 0x202F || n == 0x205F ||
  n == 0x3000

/-- A text without the white space at its two ends. -/
def trim (s : String) : String :=
  let cs := s.toList.dropWhile isBlank
  String.ofList (cs.reverse.dropWhile isBlank).reverse

/-- Keeps the first occurrence of each element. -/
def firstOccurrences [DecidableEq α] : List α → List α
  | [] => []
  | a :: rest => a :: (firstOccurrences rest).filter (· ≠ a)

/-- Decimal digits of a number. -/
def decimal (n : Nat) : String := String.ofList (Nat.toDigits 10 n)

end FactViews.Text
