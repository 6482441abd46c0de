import CommandShell.Text.ColumnTable
import CommandShell.Text.Characters

/-!
The number of terminal columns a text takes, and its clusters: the pieces that are drawn as one.
`clusters_text` says that the clusters hold every character of the text in order.
-/

namespace CommandShell.Text

/-- The columns of one character. -/
def columnsOf (char : Char) : Nat :=
  if char.toNat < 0x7F ∧ 0x20 ≤ char.toNat then 1
  else if covers zeroWidth char.toNat then 0
  else if covers doubleWidth char.toNat then 2
  else 1

/-- The selector that asks for the emoji form of the character before it. -/
def emojiSelector : Char := '\uFE0F'

/-- The selector that asks for the text form of the character before it. -/
def textSelector : Char := '\uFE0E'

/-- Joins the characters at its sides into one emoji. -/
def joiner : Char := '\u200D'

/-- The columns that the emoji selector adds to the last character that was drawn. -/
def selectorColumns : Option Char → Nat
  | none => 0
  | some last => if covers widened last.toNat then 1 else 0

/-- The columns of a text after the last character that was drawn. The character after a joiner takes
no columns of its own. -/
def columnsAfter (last? : Option Char) : List Char → Nat
  | [] => 0
  | char :: rest =>
      if char = joiner then
        match rest with
        | [] => 0
        | _ :: others => columnsAfter last? others
      else if char = emojiSelector then selectorColumns last? + columnsAfter none rest
      else
        columnsOf char + columnsAfter (if columnsOf char = 0 then last? else some char) rest

/-- The columns of a text. -/
def columns (text : List Char) : Nat := columnsAfter none text

/-- Characters that are drawn as one, and the columns they take together. -/
structure Cluster where
  text : List Char
  columns : Nat
  deriving DecidableEq, Repr

/-- A cluster with more characters and more columns. -/
def Cluster.extend (cluster : Cluster) (text : List Char) (columns : Nat) : Cluster :=
  ⟨cluster.text ++ text, cluster.columns + columns⟩

/-- The clusters of a text after the last character that was drawn, while `cluster` is open. A
character with columns of its own opens the next cluster. -/
def clustersFrom (last? : Option Char) (cluster : Cluster) : List Char → List Cluster
  | [] => [cluster]
  | char :: rest =>
      if char = joiner then
        match rest with
        | [] => [cluster.extend [char] 0]
        | next :: others => clustersFrom last? (cluster.extend [char, next] 0) others
      else if char = emojiSelector then
        clustersFrom (if selectorColumns last? = 0 then last? else none)
          (cluster.extend [char] (selectorColumns last?)) rest
      else if columnsOf char = 0 then clustersFrom last? (cluster.extend [char] 0) rest
      else cluster :: clustersFrom (some char) ⟨[char], columnsOf char⟩ rest

/-- The clusters of a text. Its first character opens a cluster, whatever it is. -/
def clusters : List Char → List Cluster
  | [] => []
  | char :: rest =>
      if char = joiner ∨ char = emojiSelector ∨ columnsOf char = 0 then
        clustersFrom none ⟨[char], 0⟩ rest
      else clustersFrom (some char) ⟨[char], columnsOf char⟩ rest

theorem clustersFrom_text (last? : Option Char) (cluster : Cluster) (text : List Char) :
    (clustersFrom last? cluster text).flatMap Cluster.text = cluster.text ++ text := by
  fun_induction clustersFrom last? cluster text <;> simp_all [Cluster.extend]

theorem clusters_text (text : List Char) : (clusters text).flatMap Cluster.text = text := by
  cases text with
  | nil => rfl
  | cons char rest =>
      simp only [clusters]
      split
      · rw [clustersFrom_text]
        rfl
      · rw [clustersFrom_text]
        rfl

end CommandShell.Text
