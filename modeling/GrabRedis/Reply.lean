import GrabRedis.Breaker
import GrabRedis.Strconv

/-!
# Replies, and the pairs `Pipeline` returns

A reply is the `interface{}` go-redis hands over. `clientImpl.Pipeline` queues one command per
argument list, executes them together, and turns each command into a `ReplyPair` through
`getResultFromCommand`, which hides `goredis.Nil`; the aggregate error is the first error of
the pairs. What the server does with the commands is the parameter `exec`.
-/

namespace GrabRedis

set_option autoImplicit false

/-- A reply as go-redis hands it over: `nil`, an `int64`, a Go `string` (bulk and status
replies), a `[]byte`, an `[]interface{}` array, or a value of another type, by its type's
name. -/
inductive Reply where
  | nil
  | int (v : Int64)
  | str (s : GoString)
  | bytes (b : GoString)
  | array (vs : List Reply)
  | other (typeName : String)

structure ReplyPair where
  value : Reply
  err : Option GoError

/-- `goredis.Nil`, the error of a nil reply: a `proto.RedisError`, compared by its text. -/
def goredisNil : GoError := .redis "redis: nil"

/-- `getResultFromCommand`: `cmd.Result()`, with `goredis.Nil` turned into no error. -/
def getResultFromCommand (cmd : Reply × Option GoError) : ReplyPair :=
  ⟨cmd.1, if cmd.2 = some goredisNil then none else cmd.2⟩

/-- One iteration of the loop of `getResultFromCommands`: the next slot takes the command's
pair, and the aggregate error, while still `nil`, takes the pair's error. -/
def resultStep (acc : List ReplyPair × Option GoError) (cmd : Reply × Option GoError) :
    List ReplyPair × Option GoError :=
  let r := getResultFromCommand cmd
  (acc.1 ++ [r], if acc.2.isNone ∧ r.err.isSome then r.err else acc.2)

/-- `getResultFromCommands`: slot `idx` holds the pair of command `idx`. -/
def getResultFromCommands (cmds : List (Reply × Option GoError)) :
    List ReplyPair × Option GoError :=
  cmds.foldl resultStep ([], none)

/-- `clientImpl.Pipeline`: command `i`, built from `argsList[i]`, ends as `exec i argsList[i]`
says: its reply and its error. -/
def clientImpl.Pipeline {α : Type} (argsList : List α)
    (exec : Nat → α → Reply × Option GoError) : List ReplyPair × Option GoError :=
  getResultFromCommands (argsList.enum.map fun (i, args) => exec i args)

/-! ## The aggregate error is the first error -/

theorem getResultFromCommands_foldl (cmds : List (Reply × Option GoError))
    (results : List ReplyPair) :
    cmds.foldl resultStep (results, results.findSome? (·.err)) =
      (results ++ cmds.map getResultFromCommand,
        (results ++ cmds.map getResultFromCommand).findSome? (·.err)) := by
  induction cmds generalizing results with
  | nil => simp
  | cons c cmds ih =>
    have hfirst : (if (results.findSome? (·.err)).isNone ∧ (getResultFromCommand c).err.isSome
        then (getResultFromCommand c).err else results.findSome? (·.err)) =
        (results ++ [getResultFromCommand c]).findSome? (·.err) := by
      rw [List.findSome?_append, List.findSome?_cons, List.findSome?_nil]
      cases results.findSome? (·.err) <;> cases (getResultFromCommand c).err <;> rfl
    rw [List.foldl_cons, resultStep, hfirst, ih]
    simp

theorem getResultFromCommands_eq (cmds : List (Reply × Option GoError)) :
    getResultFromCommands cmds =
      (cmds.map getResultFromCommand, (cmds.map getResultFromCommand).findSome? (·.err)) := by
  simpa using getResultFromCommands_foldl cmds []

theorem getResultFromCommand_err_ne_nil (cmd : Reply × Option GoError) :
    (getResultFromCommand cmd).err ≠ some goredisNil := by
  unfold getResultFromCommand; split <;> simp_all

/-- `Pipeline` returns one pair per command, in order, each the command's reply and error with
`goredis.Nil` hidden; the aggregate error is the first error among the pairs, so a later
error never replaces an earlier one, and it is never `goredis.Nil`. -/
theorem pipeline_returns_pairs_and_first_error {α : Type} (argsList : List α)
    (exec : Nat → α → Reply × Option GoError) :
    let r := clientImpl.Pipeline argsList exec
    r.1.length = argsList.length ∧
      (∀ i (h : i < argsList.length), r.1[i]? = some
        ⟨(exec i argsList[i]).1,
          if (exec i argsList[i]).2 = some goredisNil then none else (exec i argsList[i]).2⟩) ∧
      r.2 = r.1.findSome? (·.err) ∧ r.2 ≠ some goredisNil := by
  intro r
  have hr : r = _ := getResultFromCommands_eq _
  refine ⟨by simp [hr], fun i h => by simp [hr, getResultFromCommand, h], by rw [hr], ?_⟩
  rw [hr]
  intro he
  obtain ⟨p, hp, hpe⟩ := List.exists_of_findSome?_eq_some he
  obtain ⟨c, -, rfl⟩ := List.mem_map.mp hp
  exact getResultFromCommand_err_ne_nil c hpe

end GrabRedis
