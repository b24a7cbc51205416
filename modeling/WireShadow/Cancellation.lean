import WireShadow.Failure

namespace WireShadow

/-- A token as a pass over types sees it: `remaining` polls find the work still wanted and all later
ones find it cancelled. Without `remaining` it is never cancelled. -/
structure Token where
  remaining : Option Nat
deriving DecidableEq, Repr, Inhabited

namespace Token

def never : Token := ⟨none⟩

def cancelled : Token := ⟨some 0⟩

def isCancelled (t : Token) : Bool := t.remaining == some 0

def polled (t : Token) : Token := ⟨t.remaining.map (· - 1)⟩

end Token

abbrev Pass := ExceptT Failure (StateM Token)

namespace Pass

def checkpoint : Pass Unit := fun t =>
  if t.isCancelled then (.error .cancelled, t.polled) else (.ok (), t.polled)

def outcome {α : Type} (work : Pass α) (t : Token) : Except Failure α := (work t).1

def ofExcept {α : Type} (x : Except Failure α) : Pass α := fun t => (x, t)

end Pass

/-- Cancellation flags: which of them are set, the flag that each handle sets, and the flag that each
token watches. -/
structure Flags where
  isSet : List Bool := [false]
  handles : List Nat := [0]
  tokens : List (Option Nat) := []
deriving DecidableEq, Repr, Inhabited

namespace Flags

inductive Action
  | newHandle
  | cloneHandle (handle : Nat)
  | cancel (handle : Nat)
  | takeToken (handle : Nat)
  | neverToken
  | cloneToken (token : Nat)
deriving DecidableEq, Repr

/-- An action on a handle or token that does not exist does nothing. -/
def apply (f : Flags) : Action → Flags
  | .newHandle => { f with isSet := f.isSet ++ [false], handles := f.handles ++ [f.isSet.length] }
  | .cloneHandle h => { f with handles := f.handles ++ f.handles[h]?.toList }
  | .cancel h =>
    match f.handles[h]? with
    | none => f
    | some flag => { f with isSet := f.isSet.set flag true }
  | .takeToken h => { f with tokens := f.tokens ++ f.handles[h]?.toList.map some }
  | .neverToken => { f with tokens := f.tokens ++ [none] }
  | .cloneToken t => { f with tokens := f.tokens ++ f.tokens[t]?.toList }

def run (f : Flags) : List Action → List Flags
  | [] => []
  | action :: actions => f.apply action :: (f.apply action).run actions

def flagIsSet (f : Flags) (flag : Nat) : Bool := f.isSet[flag]? == some true

def handleIsCancelled (f : Flags) (handle : Nat) : Bool := f.handles[handle]?.any f.flagIsSet

def tokenIsCancelled (f : Flags) (token : Nat) : Bool := f.tokens[token]?.join.any f.flagIsSet

def check (f : Flags) (token : Nat) : Except Failure Unit :=
  if f.tokenIsCancelled token then .error .cancelled else .ok ()

end Flags

end WireShadow
