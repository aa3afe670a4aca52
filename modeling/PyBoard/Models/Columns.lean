/-
  PyBoard.Models.Columns — which values the columns and the parameters take.

  Python's integers have no bound.  The columns are INTEGER, BIGINT or VARCHAR(n), and
  the driver binds a parameter at the type of its column, so a value that does not fit
  stops the statement, a SELECT as well as an INSERT or an UPDATE.
-/
import PyBoard.Models.Entities

namespace PyBoard

/-- A value of an INTEGER column. -/
def integerFits (n : Int) : Bool := -2 ^ 31 ≤ n && n < 2 ^ 31

/-- A value of a BIGINT column. -/
def fitsBigint (n : Int) : Bool := -2 ^ 63 ≤ n && n < 2 ^ 63

/-- asyncpg sends so many parameters with one statement at most. -/
def QUERY_ARGUMENTS_MAX : Nat := 32767

/-- The parameters of a SELECT: `numbers` are compared with INTEGER columns, and there are
    `others` more. -/
def bindIntegers (numbers : List Int) (others : Nat) : Except PyExc Unit :=
  if numbers.all integerFits && numbers.length + others ≤ QUERY_ARGUMENTS_MAX then .ok ()
  else .error (.other "DBAPIError")

theorem bindIntegers_eq_ok {numbers : List Int} {others : Nat} {u : Unit} :
    bindIntegers numbers others = .ok u ↔ (∀ n ∈ numbers, integerFits n = true) ∧
      numbers.length + others ≤ QUERY_ARGUMENTS_MAX := by
  unfold bindIntegers
  split
  · next h => simpa using h
  · next h =>
    refine ⟨(by rintro ⟨⟩), fun hok => absurd ?_ h⟩
    simpa using hok

/-- An UPDATE binds the columns that it changes. -/
def changeFits {α : Type} [DecidableEq α] (fits : α → Bool) (old new : α) : Bool :=
  old = new || fits new

@[simp] theorem changeFits_iff {α : Type} [DecidableEq α] {fits : α → Bool} {old new : α} :
    changeFits fits old new = true ↔ old = new ∨ fits new = true := by
  simp [changeFits]

/-- The UPDATE of a user: the columns that a service computes from others. -/
def User.changeFits (old new : User) : Bool :=
  PyBoard.changeFits integerFits old.balance new.balance &&
    PyBoard.changeFits integerFits old.commission_balance new.commission_balance &&
    PyBoard.changeFits fitsBigint old.transfer_enable new.transfer_enable &&
    PyBoard.changeFits (fun e : Option Int => e.all fitsBigint) old.expired_at new.expired_at

/-- The INSERT of a user: the columns that an administrator fills as he likes. -/
def User.insertFits (new : User) : Bool :=
  new.email.length ≤ 64 && !new.email.toList.contains (Char.ofNat 0) &&
    new.expired_at.all fitsBigint

end PyBoard
