/-!
# Prompts

A prompt is issued under a new number and stays pending until it is answered or withdrawn. At most one answer
is accepted.
-/

namespace FieldStudy

/-- What a host says to a prompt. -/
inductive Answer
  | value (v : Int)
  | rejected (reason : String)
deriving DecidableEq, Repr

structure Prompts where
  /-- The number of the latest prompt. -/
  issued : Nat := 0
  pending : List Nat := []
  /-- Pending prompts whose answer nobody waits for any more. -/
  deserted : List Nat := []
  /-- Answers that the waiting branch has not taken yet. -/
  answers : List (Nat × Answer) := []
deriving DecidableEq, Repr

namespace Prompts

/-- Issues the prompt `issued + 1`. -/
def issue (p : Prompts) : Prompts :=
  { p with issued := p.issued + 1, pending := p.pending ++ [p.issued + 1] }

def isPending (p : Prompts) (id : Nat) : Bool := p.pending.contains id

def answer? (p : Prompts) (id : Nat) : Option Answer :=
  (p.answers.find? (·.1 == id)).map (·.2)

/-- Whether an answer to the prompt is accepted. -/
def accepts (p : Prompts) (id : Nat) : Bool := p.isPending id && !p.deserted.contains id

/-- Answers a prompt. One that is not pending is left as it is; one that nobody waits for is only withdrawn. -/
def answer (p : Prompts) (id : Nat) (a : Answer) : Prompts :=
  if p.isPending id then
    { p with
      pending := p.pending.filter (· != id)
      answers := if p.deserted.contains id then p.answers else p.answers ++ [(id, a)] }
  else p

/-- Forgets a prompt and its answer. -/
def discard (p : Prompts) (id : Nat) : Prompts :=
  { p with
    pending := p.pending.filter (· != id)
    answers := p.answers.filter (·.1 != id) }

/-- Withdraws every pending prompt. Answers that were given stay. -/
def clear (p : Prompts) : Prompts := { p with pending := [] }

/-- Nobody waits for the prompt any more, although it stays pending. -/
def desert (p : Prompts) (id : Nat) : Prompts := { p with deserted := id :: p.deserted }

end Prompts

end FieldStudy
