import GrabRedis.Reflect

/-!
# Scripts, and `clientImpl.Run`

`clientImpl.Run` sends `EVALSHA` with the script's digest and, on an error that begins with
`NOSCRIPT `, `EVAL` with its source. The server is `ScriptServer`, Redis's script cache in
front of the data; SHA-1 and what a source does to the data are parameters.
-/
namespace GrabRedis

set_option autoImplicit false

structure Script where
  keyCount : Int
  src : GoString
  hash : GoString

/-- `NewScript`: the digest is the hex SHA-1 of the source, `sha1Hex`. -/
def NewScript (sha1Hex : GoString → GoString) (keyCount : Int) (scriptSource : GoString) :
    Script :=
  ⟨keyCount, scriptSource, sha1Hex scriptSource⟩

/-- `Script.args`: `spec`, then the key count unless it is negative, then the keys and
arguments. -/
def Script.args (s : Script) (spec : GoString) (keysAndArgs : List Arg) : List Arg :=
  if s.keyCount < 0 then (.string, .str spec) :: keysAndArgs
  else (.string, .str spec) :: (.int, .int s.keyCount) :: keysAndArgs

def Script.GetHashAndArgs (s : Script) (keysAndArgs : List Arg) : List Arg :=
  s.args s.hash keysAndArgs

def Script.GetScriptAndArgs (s : Script) (keysAndArgs : List Arg) : List Arg :=
  s.args s.src keysAndArgs

def redisEval : String := "EVAL"
def redisEvalSha : String := "EVALSHA"
def redisErrNoScript : String := "NOSCRIPT "

def redisapi.NewArgs (args : List Arg) : List Arg := args

def redisapi.Args.Add (args values : List Arg) : List Arg := args ++ values

def strings.HasPrefix (s pre : String) : Bool := pre.data.isPrefixOf s.data

def strArg (s : String) : Arg := (.string, .str (.ofString s))

theorem Script.args_eq_cons (s : Script) (spec : GoString) (keysAndArgs : List Arg) :
    s.args spec keysAndArgs = (.string, .str spec) :: (s.args spec keysAndArgs).tail := by
  unfold Script.args; split <;> rfl

theorem Script.args_tail (s : Script) (spec spec' : GoString) (keysAndArgs : List Arg) :
    (s.args spec keysAndArgs).tail = (s.args spec' keysAndArgs).tail := by
  unfold Script.args; split <;> rfl

section client

variable {σ : Type} (roundTrip : List Arg → σ → (Reply × Option GoError) × σ)

/-- `clientImpl.do`: one round trip to the server, in state `σ`, through
`getResultFromCommand`. -/
def clientImpl.do (args : List Arg) (st : σ) : ReplyPair × σ :=
  (getResultFromCommand (roundTrip args st).1, (roundTrip args st).2)

/-- `clientImpl.Run`: `EVALSHA`, then `EVAL` when the error of the first begins with
`NOSCRIPT `. -/
def clientImpl.Run (script : Script) (keysAndArgs : List Arg) (st : σ) : ReplyPair × σ :=
  let first := clientImpl.do roundTrip
    (redisapi.Args.Add (redisapi.NewArgs [strArg redisEvalSha])
      (script.GetHashAndArgs keysAndArgs)) st
  match first.1.err with
  | some err =>
    if strings.HasPrefix err.text redisErrNoScript then
      clientImpl.do roundTrip
        (redisapi.Args.Add (redisapi.NewArgs [strArg redisEval])
          (script.GetScriptAndArgs keysAndArgs)) first.2
    else first
  | none => first

theorem noScript_ne_goredisNil {e : GoError} (he : strings.HasPrefix e.text redisErrNoScript) :
    e ≠ goredisNil := by
  rintro rfl; exact absurd he (by decide)

/-- An error answer to `EVALSHA` that begins with `NOSCRIPT ` makes `Run` send `EVAL`. -/
theorem clientImpl.Run_of_noScript {script : Script} {keysAndArgs : List Arg} {st st₁ : σ}
    {r : Reply} {e : GoError}
    (h₁ : roundTrip (strArg redisEvalSha :: script.GetHashAndArgs keysAndArgs) st =
      ((r, some e), st₁))
    (he : strings.HasPrefix e.text redisErrNoScript) :
    clientImpl.Run roundTrip script keysAndArgs st =
      clientImpl.do roundTrip (strArg redisEval :: script.GetScriptAndArgs keysAndArgs) st₁ := by
  simp only [clientImpl.Run, clientImpl.do, redisapi.Args.Add, redisapi.NewArgs,
    List.singleton_append, h₁, getResultFromCommand, Option.some.injEq,
    noScript_ne_goredisNil he, if_false, he, if_true]

theorem clientImpl.Run_of_answer {script : Script} {keysAndArgs : List Arg} {st : σ}
    (h : ∀ e, (roundTrip (strArg redisEvalSha :: script.GetHashAndArgs keysAndArgs) st).1.2 =
      some e → strings.HasPrefix e.text redisErrNoScript = false) :
    clientImpl.Run roundTrip script keysAndArgs st =
      clientImpl.do roundTrip (strArg redisEvalSha :: script.GetHashAndArgs keysAndArgs) st := by
  simp only [clientImpl.Run, clientImpl.do, redisapi.Args.Add, redisapi.NewArgs,
    List.singleton_append]
  split
  · rename_i err herr
    have hsome := herr
    simp only [getResultFromCommand] at hsome
    split at hsome
    · cases hsome
    · rw [h err hsome, if_neg Bool.false_ne_true]
  · rfl

end client

/-! ## The server's script cache -/

/-- The server as the script commands see it: the data, and the script cache from digests to
sources, newest first. -/
structure ScriptServer (D : Type) where
  db : D
  cache : List (GoString × GoString)

def noScriptErr : GoError := .redis "NOSCRIPT No matching script. Please use EVAL."

theorem lookup_of_noCollision {cache : List (GoString × GoString)} {h src : GoString}
    (hc : ∀ p ∈ cache, p.1 = h → p.2 = src) : cache.lookup h = none ∨ cache.lookup h = some src := by
  induction cache with
  | nil => exact .inl rfl
  | cons p cache ih =>
    obtain ⟨k, v⟩ := p
    rw [List.lookup_cons]
    by_cases hk : h = k
    · subst hk
      simp only [beq_self_eq_true]
      exact .inr (congrArg some (hc _ (List.mem_cons_self _ _) rfl))
    · simp only [beq_false_of_ne hk]
      exact ih fun q hq => hc q (List.mem_cons_of_mem _ hq)

section server

variable {D : Type} (sha1Hex : GoString → GoString)
  (evalScript : GoString → List Arg → D → (Reply × Option GoError) × D)
  (other : List Arg → D → (Reply × Option GoError) × D)

/-- A round trip: `EVAL src …` runs `src` on the arguments after it and caches it under its
digest; `EVALSHA digest …` runs the cached source, or answers `NOSCRIPT` and changes nothing;
any other command is `other` on the data. -/
def ScriptServer.roundTrip (args : List Arg) (s : ScriptServer D) :
    (Reply × Option GoError) × ScriptServer D :=
  match args with
  | (.string, .str cmd) :: (.string, .str spec) :: rest =>
    if cmd = .ofString redisEval then
      ((evalScript spec rest s.db).1,
        ⟨(evalScript spec rest s.db).2, (sha1Hex spec, spec) :: s.cache⟩)
    else if cmd = .ofString redisEvalSha then
      match s.cache.lookup spec with
      | some src => ((evalScript src rest s.db).1, { s with db := (evalScript src rest s.db).2 })
      | none => ((.nil, some noScriptErr), s)
    else ((other args s.db).1, { s with db := (other args s.db).2 })
  | _ => ((other args s.db).1, { s with db := (other args s.db).2 })

theorem ScriptServer.roundTrip_eval (s : ScriptServer D) (spec : GoString) (rest : List Arg) :
    ScriptServer.roundTrip sha1Hex evalScript other
        (strArg redisEval :: (.string, .str spec) :: rest) s =
      ((evalScript spec rest s.db).1,
        ⟨(evalScript spec rest s.db).2, (sha1Hex spec, spec) :: s.cache⟩) := by
  simp [ScriptServer.roundTrip, strArg]

theorem ScriptServer.roundTrip_evalSha (s : ScriptServer D) (h : GoString) (rest : List Arg) :
    ScriptServer.roundTrip sha1Hex evalScript other
        (strArg redisEvalSha :: (.string, .str h) :: rest) s =
      match s.cache.lookup h with
      | some src => ((evalScript src rest s.db).1, { s with db := (evalScript src rest s.db).2 })
      | none => ((.nil, some noScriptErr), s) := by
  have hne : GoString.ofString redisEvalSha ≠ .ofString redisEval := by decide
  simp [ScriptServer.roundTrip, strArg, hne]

theorem NewScript_args (keyCount : Int) (src : GoString) (keysAndArgs : List Arg) :
    let script := NewScript sha1Hex keyCount src
    script.GetHashAndArgs keysAndArgs =
        (.string, .str (sha1Hex src)) :: (script.GetScriptAndArgs keysAndArgs).tail ∧
      script.GetScriptAndArgs keysAndArgs =
        (.string, .str src) :: (script.GetScriptAndArgs keysAndArgs).tail :=
  ⟨(Script.args_eq_cons _ _ _).trans (congrArg _ (Script.args_tail _ _ _ _)),
    Script.args_eq_cons _ _ _⟩

/-- `Run` through the script cache is one run of the source. For a script made by `NewScript`,
a cache whose entries under the script's digest all hold its source, and a source whose own
answer is no error beginning with `NOSCRIPT `: `Run` answers what one run of the source on the
arguments after it answers, with `goredis.Nil` hidden, leaves the data as that one run leaves
it, and leaves the source cached under its digest, whether it was cached before or not. -/
theorem Run_runs_script_once (keyCount : Int) (src : GoString) (keysAndArgs : List Arg)
    (s : ScriptServer D) (hcache : ∀ p ∈ s.cache, p.1 = sha1Hex src → p.2 = src)
    (hanswer : ∀ e, (evalScript src ((NewScript sha1Hex keyCount src).GetScriptAndArgs
      keysAndArgs).tail s.db).1.2 = some e → strings.HasPrefix e.text redisErrNoScript = false) :
    let e := evalScript src
      ((NewScript sha1Hex keyCount src).GetScriptAndArgs keysAndArgs).tail s.db
    let r := clientImpl.Run (ScriptServer.roundTrip sha1Hex evalScript other)
      (NewScript sha1Hex keyCount src) keysAndArgs s
    r.1 = getResultFromCommand e.1 ∧ r.2.db = e.2 ∧ r.2.cache.lookup (sha1Hex src) = some src := by
  intro e r
  obtain ⟨hhash, hsrc⟩ := NewScript_args sha1Hex keyCount src keysAndArgs
  rcases lookup_of_noCollision hcache with hl | hl
  · -- not cached: `EVALSHA` answers `NOSCRIPT`, and `EVAL` runs the source and caches it
    have h₁ : ScriptServer.roundTrip sha1Hex evalScript other (strArg redisEvalSha ::
        (NewScript sha1Hex keyCount src).GetHashAndArgs keysAndArgs) s =
        ((.nil, some noScriptErr), s) := by
      rw [hhash, ScriptServer.roundTrip_evalSha, hl]
    rw [show r = _ from clientImpl.Run_of_noScript _ h₁ (by decide), hsrc]
    simp [clientImpl.do, ScriptServer.roundTrip_eval, e]
  · -- cached: `EVALSHA` runs the cached source
    have h₁ : ScriptServer.roundTrip sha1Hex evalScript other (strArg redisEvalSha ::
        (NewScript sha1Hex keyCount src).GetHashAndArgs keysAndArgs) s = (e.1, { s with db := e.2 }) := by
      rw [hhash, ScriptServer.roundTrip_evalSha, hl]
    rw [show r = _ from clientImpl.Run_of_answer _ (by rw [h₁]; exact hanswer)]
    simp [clientImpl.do, h₁, hl]

theorem Run_runs_script_once_uncached :
    let src := GoString.ofString "return 1"
    let evalScript : GoString → List Arg → Nat → (Reply × Option GoError) × Nat :=
      fun _ _ n => ((.str (.ofString "OK"), none), n + 1)
    let other : List Arg → Nat → (Reply × Option GoError) × Nat := fun _ n => ((.nil, none), n)
    let s : ScriptServer Nat := ⟨0, []⟩
    let e := evalScript src ((NewScript id 0 src).GetScriptAndArgs []).tail s.db
    let r := clientImpl.Run (ScriptServer.roundTrip id evalScript other) (NewScript id 0 src) [] s
    (∀ p ∈ s.cache, p.1 = id src → p.2 = src) ∧
      (∀ e, (evalScript src ((NewScript id 0 src).GetScriptAndArgs []).tail s.db).1.2 = some e →
        strings.HasPrefix e.text redisErrNoScript = false) ∧
      r.1 = getResultFromCommand e.1 ∧ r.2.db = e.2 ∧ r.2.cache.lookup (id src) = some src := by
  intro src evalScript other s e r
  have hc : ∀ p ∈ s.cache, p.1 = id src → p.2 = src := fun _ hp => nomatch hp
  have ha : ∀ e, (evalScript src ((NewScript id 0 src).GetScriptAndArgs []).tail s.db).1.2 =
      some e → strings.HasPrefix e.text redisErrNoScript = false := fun _ he => nomatch he
  exact ⟨hc, ha, Run_runs_script_once id evalScript other 0 src [] s hc ha⟩

end server

end GrabRedis
