import CommandShell.Host.Script.Builtin

/-!
The limits that a process has, with the command that tells and sets them.
-/

namespace CommandShell.Host.Script.Builtin

open Script.Action

/-- A kind of limit: the letter it is asked for by, what it is called, and the unit it is told in. -/
structure LimitKind where
  letter : Char
  name : String
  unit : Nat

/-- The kinds of limits, in the order in which they are told. -/
def limitKinds : List LimitKind := [
  ⟨'t', "time(seconds)", 1⟩, ⟨'f', "file(blocks)", 512⟩, ⟨'d', "data(kbytes)", 1024⟩,
  ⟨'s', "stack(kbytes)", 1024⟩, ⟨'c', "coredump(blocks)", 512⟩, ⟨'m', "memory(kbytes)", 1024⟩,
  ⟨'l', "locked memory(kbytes)", 1024⟩, ⟨'p', "process", 1⟩, ⟨'n', "nofiles", 1⟩,
  ⟨'v', "vmemory(kbytes)", 1024⟩, ⟨'w', "locks", 1⟩, ⟨'r', "rtprio", 1⟩]

/-- The number that stands for no limit. -/
def unlimited : Nat := Numeral.wordSize - 1

/-- A limit that is told. -/
def limitText (kind : LimitKind) (value : Nat) : Bytes :=
  if value = unlimited then bytes "unlimited\n" else Bytes.ofInt (Numeral.wrap (value / kind.unit)) ++ ['\n']

/-- The limit that a text gives. -/
def limitValue (kind : LimitKind) (text : Bytes) : Action Nat := do
  if text = bytes "unlimited" then return unlimited
  if !text.all Char.isDigit then fail (bytes "bad number")
  let number := text.foldl (fun number digit => 10 * number + (digit.toNat - '0'.toNat)) 0
  return number * kind.unit % Numeral.wordSize

/-- Set a limit. The soft limit stays within the hard one, and the hard one is never raised. -/
def setLimit (kind : LimitKind) (before after : Limit) : Action Nat := do
  let refuse (reason : String) : Action Nat := fail (bytes ("error setting limit (" ++ reason ++ ")"))
  if after.hard < after.soft then refuse "Invalid argument"
  else if before.hard < after.hard then refuse "Operation not permitted"
  else
    modify fun state => { state with
      limits := (kind.letter, after) :: state.limits.filter (·.1 != kind.letter) }
    return 0

/-- Tell or set the limits of the process. Without a letter that says so both the soft and the hard limit are set,
and the soft one is told. -/
def ulimit : Builtin := fun _ arguments => do
  let (asked, operands) ← options (['H', 'S', 'a'] ++ limitKinds.map (·.letter)) [] arguments
  let letters := asked.map (·.1)
  let sides := (letters.filter ['H', 'S'].contains).getLast?
  let wanted := ((letters.filter fun letter => limitKinds.any (·.letter == letter)).getLast?).getD 'f'
  let current (kind : LimitKind) : Action Limit := do
    return ((← get).limits.lookup kind.letter).getD ⟨unlimited, unlimited⟩
  let told (limit : Limit) : Nat := if sides = some 'H' then limit.hard else limit.soft
  match limitKinds.find? (·.letter == wanted), operands with
  | none, _ => return 0
  | some kind, [] =>
      if letters.contains 'a' then
        limitKinds.forM fun kind => do
          let fill := List.replicate (20 - kind.name.length) ' ' ++ [' ']
          let _ ← put (bytes kind.name ++ fill ++ limitText kind (told (← current kind)))
        return 0
      else put (limitText kind (told (← current kind)))
  | some kind, [text] =>
      if letters.contains 'a' then fail (bytes "too many arguments")
      let value ← limitValue kind text
      let before ← current kind
      setLimit kind before {
        soft := if sides = some 'H' then before.soft else value
        hard := if sides = some 'S' then before.hard else value }
  | some _, _ => fail (bytes "too many arguments")

end CommandShell.Host.Script.Builtin
