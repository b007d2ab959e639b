import ExtensionHost.Rehearsal.Shell.Machine
import ExtensionHost.Rehearsal.Shell.Numeral

/-!
# Calls of programs

The arguments of a program of the system: options, which are letters or names and may have values, and
operands. Options may stand between operands, and a word of two hyphens ends them.
-/

namespace ExtensionHost.Shell

/-- The options that a program has: letters without and with a value, and names for letters. Those of an
ordered program all stand before its operands. -/
structure CallRule where
  plain : String := ""
  valued : String := ""
  names : List (String × Char) := []
  ordered : Bool := false

/-- How a program was called: its options with their values, in order, and its operands. -/
structure Call where
  options : List (Char × Bytes) := []
  operands : List Bytes := []

namespace Call

/-- Whether an option was given. -/
def has (c : Call) (letter : Char) : Bool := c.options.any (·.1 = letter)

/-- The values of an option. -/
def values (c : Call) (letter : Char) : List Bytes :=
  (c.options.filter (·.1 = letter)).map Prod.snd

/-- The last value of an option. -/
def value? (c : Call) (letter : Char) : Option Bytes := (c.values letter).getLast?

/-- Adds an option in front of others. -/
def withOption (letter : Char) (value : Bytes) (c : Call) : Call :=
  { c with options := (letter, value) :: c.options }

/-- Reads arguments; `fuel` bounds their characters. -/
def readFrom (r : CallRule) : Nat → List Bytes → Except String Call
  | 0, args => .ok { operands := args }
  | _ + 1, [] => .ok {}
  | fuel + 1, a :: rest =>
    match a with
    | ['-', '-'] => .ok { operands := rest }
    | '-' :: '-' :: text =>
      let name := text.takeWhile (· ≠ '=')
      let attached := (text.drop name.length).drop 1
      match r.names.lookup (toText name) with
      | none => .error ("unrecognized option '--" ++ toText name ++ "'")
      | some letter =>
        if r.valued.toList.contains letter then
          if text.contains '=' then (readFrom r fuel rest).map (withOption letter attached)
          else
            match rest with
            | value :: rest => (readFrom r fuel rest).map (withOption letter value)
            | [] => .error ("option '--" ++ toText name ++ "' requires an argument")
        else if text.contains '=' then
          .error ("option '--" ++ toText name ++ "' doesn't allow an argument")
        else (readFrom r fuel rest).map (withOption letter [])
    | '-' :: c :: letters =>
      if r.valued.toList.contains c then
        match letters, rest with
        | [], value :: rest => (readFrom r fuel rest).map (withOption c value)
        | [], [] => .error ("option requires an argument -- '" ++ toText [c] ++ "'")
        | value, rest => (readFrom r fuel rest).map (withOption c value)
      else if r.plain.toList.contains c then
        let rest := if letters.isEmpty then rest else ('-' :: letters) :: rest
        (readFrom r fuel rest).map (withOption c [])
      else .error ("invalid option -- '" ++ toText [c] ++ "'")
    | a =>
      if r.ordered then .ok { operands := a :: rest }
      else (readFrom r fuel rest).map fun c => { c with operands := a :: c.operands }

/-- Reads the arguments of a program. -/
def read (r : CallRule) (args : List Bytes) : Except String Call :=
  readFrom r (args.flatten.length + args.length + 1) args

end Call

/-! ## Complaints -/

/-- A text in the quotes that programs put around what they complain about. -/
def inQuotes (what : Bytes) : String := "'" ++ toText what ++ "'"

/-- Complains about how a program was called. Gives a status. -/
def complainOfCall (program message : String) (status : Nat) : Action Nat := do
  complainOf program (message ++ "\nTry '" ++ program ++ " --help' for more information.")
  pure status

/-- Runs a program that was called rightly; otherwise it complains and ends with a status. -/
def called (program : String) (r : CallRule) (status : Nat) (args : List Bytes)
    (k : Call → Action Nat) : Action Nat :=
  match Call.read r args with
  | .ok c => k c
  | .error message => complainOfCall program message status

end ExtensionHost.Shell
