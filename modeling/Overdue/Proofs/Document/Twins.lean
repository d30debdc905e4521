import Overdue.Proofs.Document.Requoted

/-!
# Scanners that differ in the quotes of a date

Behind a date that is the value of a key, it makes no difference to what follows whether the date
had quotes: two scanners that differ in nothing else (`Twin`) take the same tokens from there on, or
fail alike, and stay twins. `Twin.takeHere` says so of one token, `run_twin` of all that follow.
-/
namespace Overdue.Document.Lexer

theorem ite_matches {ε α : Type} {R : α → α → Prop} {p : Prop} [Decidable p]
    {x x' y y' : Except ε α} (yes : Matches R x x') (no : Matches R y y') :
    Matches R (if p then x else y) (if p then x' else y') := by
  split
  · exact yes
  · exact no

section Twins

variable (d : Date) (plain plain' : Bool) (base : List Token)

/-- Two scanners are the same, but that a date among their tokens, behind the mark of a value, had
quotes in the one and maybe none in the other. No key is pending that started at the date or before
it. -/
inductive Twin : State → State → Prop
  | twin {s : State} {front : List Token} :
      s.done = front ++ .scalar d.iso plain :: .value :: base →
      s.count = front.length + (base.length + 2) →
      (∀ k ∈ s.keys, base.length + 2 ≤ k.2.before) →
        Twin s { s with done := front ++ .scalar d.iso plain' :: .value :: base }

end Twins

namespace Twin

variable {d : Date} {plain plain' : Bool} {base : List Token} {s s' : State}

/-! ## What steps are made of -/

theorem emit (twin : Twin d plain plain' base s s') (t : Token) :
    Twin d plain plain' base (s.emit t) (s'.emit t) := by
  cases twin with
  | @twin front done count floor =>
      refine @Twin.twin d plain plain' base _ (t :: front) (congrArg (t :: ·) done) ?_ floor
      simp only [State.emit, List.length_cons, count]
      omega

theorem insert (twin : Twin d plain plain' base s s') {before : Nat}
    (behind : base.length + 2 ≤ before) (t : Token) :
    Twin d plain plain' base (s.insert before t) (s'.insert before t) := by
  cases twin with
  | @twin front done count floor =>
      -- The token is put among those behind the date, which both have in common.
      have inside : s.count - before ≤ front.length := by omega
      have put (last : List Token) :
          (front ++ last).take (s.count - before) ++ t :: (front ++ last).drop (s.count - before) =
            (front.take (s.count - before) ++ t :: front.drop (s.count - before)) ++ last := by
        rw [List.take_append_of_le_length inside, List.drop_append_of_le_length inside,
          List.append_assoc, List.cons_append]
      rw [State.insert, State.insert]
      dsimp only
      rw [put, done, put]
      refine .twin rfl ?_ floor
      simp only [List.length_append, List.length_cons, List.length_take, List.length_drop, count]
      omega

theorem move (twin : Twin d plain plain' base s s') (c : Cursor) :
    Twin d plain plain' base (s.move c) (s'.move c) := by
  obtain ⟨done, count, floor⟩ := twin
  exact .twin done count floor

theorem step (twin : Twin d plain plain' base s s') (n : Nat) :
    Twin d plain plain' base (s.step n) (s'.step n) := by
  obtain ⟨done, count, floor⟩ := twin
  exact .twin done count floor

theorem allow (twin : Twin d plain plain' base s s') (b : Bool) :
    Twin d plain plain' base { s with allowKey := b } { s' with allowKey := b } := by
  obtain ⟨done, count, floor⟩ := twin
  exact .twin done count floor

theorem filterKeys (twin : Twin d plain plain' base s s') (p : Nat × PossibleKey → Bool) :
    Twin d plain plain' base { s with keys := s.keys.filter p }
      { s' with keys := s'.keys.filter p } := by
  obtain ⟨done, count, floor⟩ := twin
  exact .twin done count fun k member => floor k (List.mem_of_mem_filter member)

theorem dropStale (twin : Twin d plain plain' base s s') :
    Matches (Twin d plain plain' base) s.dropStale s'.dropStale := by
  have filtered := twin.filterKeys
    fun k => !(k.2.line != s.here.line || k.2.left - s.here.rest.length > maxKeyLength)
  obtain ⟨done, count, floor⟩ := twin
  exact ite_matches (.error _) (.ok filtered)

theorem key? (twin : Twin d plain plain' base s s') : s'.key? = s.key? := by
  obtain ⟨done, count, floor⟩ := twin
  rfl

theorem floor_of_key? (twin : Twin d plain plain' base s s') {k : PossibleKey}
    (found : s.key? = some k) : base.length + 2 ≤ k.before := by
  obtain ⟨done, count, floor⟩ := twin
  obtain ⟨entry, there, rfl⟩ := Option.map_eq_some_iff.mp found
  exact floor entry (List.mem_of_find?_eq_some there)

theorem dropKeyAt (twin : Twin d plain plain' base s s') :
    Twin d plain plain' base (s.dropKeyAt s.flow) (s'.dropKeyAt s'.flow) := by
  have filtered := twin.filterKeys fun k => k.1 != s.flow
  obtain ⟨done, count, floor⟩ := twin
  exact filtered

theorem dropKey (twin : Twin d plain plain' base s s') :
    Matches (Twin d plain plain' base) s.dropKey s'.dropKey := by
  rw [State.dropKey, State.dropKey, twin.key?]
  cases s.key? with
  | none => exact .ok twin
  | some k => exact ite_matches (.error _) (.ok twin.dropKeyAt)

theorem saveKey (twin : Twin d plain plain' base s s') :
    Matches (Twin d plain plain' base) s.saveKey s'.saveKey := by
  have dropped := twin.dropKey
  obtain ⟨done, count, floor⟩ := twin
  refine ite_matches (dropped.bind fun a a' twin => .ok ?_) (.ok (.twin done count floor))
  obtain ⟨done, count, floor⟩ := twin
  refine .twin done count (List.forall_mem_cons.mpr ⟨?_, floor⟩)
  dsimp only
  omega

theorem unwindTo (twin : Twin d plain plain' base s s') (column : Int) (outer : List Int)
    (indent : Int) : Twin d plain plain' base (State.unwindTo column outer indent s)
      (State.unwindTo column outer indent s') := by
  induction outer generalizing indent s s' with
  | nil =>
      obtain ⟨done, count, floor⟩ := twin
      exact .twin done count floor
  | cons next outer ih =>
      rw [State.unwindTo, State.unwindTo]
      split
      · exact ih (twin.emit _) next
      · obtain ⟨done, count, floor⟩ := twin
        exact .twin done count floor

theorem unwind (twin : Twin d plain plain' base s s') (column : Int) :
    Twin d plain plain' base (s.unwind column) (s'.unwind column) := by
  have unwound := twin.unwindTo column s.indents s.indent
  obtain ⟨done, count, floor⟩ := twin
  rw [State.unwind, State.unwind]
  dsimp only
  split
  · exact .twin done count floor
  · exact unwound

theorem toNextToken (twin : Twin d plain plain' base s s') (fuel : Nat) :
    Twin d plain plain' base (s.toNextToken fuel) (s'.toNextToken fuel) := by
  induction fuel generalizing s s' with
  | zero => exact twin
  | succ fuel ih =>
      obtain ⟨done, count, floor⟩ := twin
      rw [State.toNextToken, State.toNextToken]
      dsimp only
      split
      · exact ih (.twin done count floor)
      · exact .twin done count floor

/-! ## Steps -/

theorem mark (twin : Twin d plain plain' base s s') (t : Token) :
    Twin d plain plain' base (mark s t) (mark s' t) := (twin.step 1).emit t

theorem openBracket (twin : Twin d plain plain' base s s') (t : Token) :
    Matches (Twin d plain plain' base) (openBracket s t) (openBracket s' t) := by
  refine twin.saveKey.bind fun a a' twin => .ok (mark ?_ t)
  obtain ⟨done, count, floor⟩ := twin
  exact .twin done count floor

theorem closeBracket (twin : Twin d plain plain' base s s') (t : Token) :
    Matches (Twin d plain plain' base) (closeBracket s t) (closeBracket s' t) := by
  refine twin.dropKey.bind fun a a' twin => ?_
  obtain ⟨done, count, floor⟩ := twin
  refine ite_matches (.error _) (.ok (mark ?_ t))
  exact .twin done count floor

theorem marker (twin : Twin d plain plain' base s s') (t : Token) :
    Matches (Twin d plain plain' base) (marker s t) (marker s' t) :=
  (twin.unwind (-1)).dropKey.bind fun _ _ twin => .ok (((twin.allow false).step 3).emit t)

theorem deepen (twin : Twin d plain plain' base s s') (column : Nat) :
    (s'.deepen column).1 = (s.deepen column).1 ∧
      Twin d plain plain' base (s.deepen column).2 (s'.deepen column).2 := by
  obtain ⟨done, count, floor⟩ := twin
  rw [State.deepen, State.deepen]
  dsimp only
  split
  · exact ⟨rfl, .twin done count floor⟩
  · exact ⟨rfl, .twin done count floor⟩

theorem openBlock (twin : Twin d plain plain' base s s') (t : Token) :
    Matches (Twin d plain plain' base) (openBlock s t) (openBlock s' t) := by
  obtain ⟨deeper, deep⟩ := twin.deepen s.here.column
  have opened : Twin d plain plain' base
      (if (s.deepen s.here.column).1 then (s.deepen s.here.column).2.emit t
        else (s.deepen s.here.column).2)
      (if (s'.deepen s.here.column).1 then (s'.deepen s.here.column).2.emit t
        else (s'.deepen s.here.column).2) := by
    rw [deeper]
    split
    · exact deep.emit t
    · exact deep
  obtain ⟨done, count, floor⟩ := twin
  exact ite_matches (.ok (.twin done count floor)) (ite_matches (.error _) (.ok opened))

theorem entry (twin : Twin d plain plain' base s s') :
    Matches (Twin d plain plain' base) (entry s) (entry s') := by
  refine (twin.openBlock _).bind fun a a' twin => ?_
  exact (twin.allow true).dropKey.bind fun _ _ twin => .ok (twin.mark _)

/-- Allowing a key outside of brackets, and forgetting the pending one. -/
theorem dropKey_outside (twin : Twin d plain plain' base s s') :
    Matches (Twin d plain plain' base) { s with allowKey := s.flow == 0 }.dropKey
      { s' with allowKey := s'.flow == 0 }.dropKey := by
  have dropped := (twin.allow (s.flow == 0)).dropKey
  obtain ⟨done, count, floor⟩ := twin
  exact dropped

theorem explicitKey (twin : Twin d plain plain' base s s') :
    Matches (Twin d plain plain' base) (explicitKey s) (explicitKey s') := by
  refine (twin.openBlock _).bind fun a a' twin => ?_
  exact twin.dropKey_outside.bind fun _ _ twin => .ok (twin.mark _)

/-- Opening the block of a key that has been found behind it. -/
theorem openBehind (twin : Twin d plain plain' base s s') {before : Nat}
    (behind : base.length + 2 ≤ before) (column : Nat) :
    Twin d plain plain' base
      (if s.flow > 0 then s
        else if (s.deepen column).1 then (s.deepen column).2.insert before .blockMapping
        else (s.deepen column).2)
      (if s'.flow > 0 then s'
        else if (s'.deepen column).1 then (s'.deepen column).2.insert before .blockMapping
        else (s'.deepen column).2) := by
  obtain ⟨deeper, deep⟩ := twin.deepen column
  have flow : s'.flow = s.flow := by
    obtain ⟨done, count, floor⟩ := twin
    rfl
  rw [deeper, flow]
  split
  · exact twin
  · split
    · exact deep.insert behind _
    · exact deep

theorem value (twin : Twin d plain plain' base s s') :
    Matches (Twin d plain plain' base) (value s) (value s') := by
  rw [Lexer.value, Lexer.value, twin.key?]
  cases pending : s.key? with
  | none =>
      refine (twin.openBlock _).bind fun a a' twin => ?_
      exact twin.dropKey_outside.bind fun _ _ twin => .ok (twin.mark _)
  | some k =>
      have behind := twin.floor_of_key? pending
      have keyed := twin.dropKeyAt.insert behind .key
      exact .ok (((keyed.openBehind behind k.column).allow false).mark .value)

/-- Reading a token from the text and going on behind it. -/
theorem taken {α : Type} (twin : Twin d plain plain' base s s')
    (read : Except Fault (α × Cursor)) (token : α → Token) (b : Bool) :
    Matches (Twin d plain plain' base)
      (do
        let (a, c) ← read
        return ({ s with allowKey := b }.move c).emit (token a))
      (do
        let (a, c) ← read
        return ({ s' with allowKey := b }.move c).emit (token a)) := by
  refine (Matches.of_eq read fun _ => rfl).bind ?_
  rintro ⟨a, c⟩ - rfl
  exact .ok (((twin.allow b).move c).emit _)

theorem takeAnchor (twin : Twin d plain plain' base s s') (token : String → Token) :
    Matches (Twin d plain plain' base) (takeAnchor s token) (takeAnchor s' token) := by
  refine twin.saveKey.bind fun a a' twin => ?_
  have taken := twin.taken (anchorName a.here) token false
  obtain ⟨done, count, floor⟩ := twin
  exact taken

theorem takeTag (twin : Twin d plain plain' base s s') :
    Matches (Twin d plain plain' base) (takeTag s) (takeTag s') := by
  refine twin.saveKey.bind fun a a' twin => ?_
  have taken := twin.taken (tag a.here) id false
  obtain ⟨done, count, floor⟩ := twin
  exact taken

theorem takeQuoted (twin : Twin d plain plain' base s s') (double : Bool) :
    Matches (Twin d plain plain' base) (takeQuoted s double) (takeQuoted s' double) := by
  refine twin.saveKey.bind fun a a' twin => ?_
  have taken := twin.taken (quoted double a.here) (fun text => .scalar (String.ofList text) false)
    false
  obtain ⟨done, count, floor⟩ := twin
  exact taken

theorem takeBlock (twin : Twin d plain plain' base s s') (folded : Bool) :
    Matches (Twin d plain plain' base) (takeBlock s folded) (takeBlock s' folded) := by
  refine (twin.allow true).dropKey.bind fun a a' twin => ?_
  have taken := twin.taken (block folded a.indent a.here)
    (fun text => .scalar (String.ofList text) false) a.allowKey
  obtain ⟨done, count, floor⟩ := twin
  exact taken

theorem takePlain (twin : Twin d plain plain' base s s') :
    Matches (Twin d plain plain' base) (takePlain s) (takePlain s') := by
  refine twin.saveKey.bind fun a a' twin => ?_
  have both := twin
  obtain ⟨done, count, floor⟩ := twin
  dsimp only
  generalize Document.plain (a.flow > 0) (a.indent + 1) a.here = read
  obtain ⟨text, c, broke⟩ := read
  exact .ok (((both.allow broke).move c).emit _)

theorem takeDirective (twin : Twin d plain plain' base s s') :
    Matches (Twin d plain plain' base) (takeDirective s) (takeDirective s') := by
  refine (twin.unwind (-1)).dropKey.bind fun a a' twin => ?_
  have taken := twin.taken (directive a.here) id false
  obtain ⟨done, count, floor⟩ := twin
  exact taken

theorem finish (twin : Twin d plain plain' base s s') :
    Matches (Twin d plain plain' base) (finish s) (finish s') := by
  refine (twin.unwind (-1)).dropKey.bind fun a a' twin => ?_
  obtain ⟨done, count, floor⟩ := twin
  refine .ok (emit ?_ _)
  exact .twin done count nofun

/-- **Twins take the token that stands here alike.** -/
theorem takeHere (twin : Twin d plain plain' base s s') :
    Matches (Twin d plain plain' base) (takeHere s) (takeHere s') := by
  have same : s'.here = s.here := by
    obtain ⟨done, count, floor⟩ := twin
    rfl
  rw [Lexer.takeHere, Lexer.takeHere, same]
  replace twin := twin.unwind s.here.column
  generalize s.unwind s.here.column = u at twin
  generalize s'.unwind s.here.column = u' at twin
  have both := twin
  obtain ⟨done, count, floor⟩ := twin
  dsimp only
  cases u.here.rest with
  | nil => exact both.finish
  | cons ch rest =>
      refine ite_matches both.takeDirective ?_
      refine ite_matches (both.marker _) ?_
      refine ite_matches (both.openBracket _) ?_
      refine ite_matches (both.openBracket _) ?_
      refine ite_matches (both.closeBracket _) ?_
      refine ite_matches (both.closeBracket _) ?_
      refine ite_matches ((both.allow true).dropKey.bind fun _ _ twin => .ok (twin.mark _)) ?_
      refine ite_matches both.entry ?_
      refine ite_matches both.explicitKey ?_
      refine ite_matches both.value ?_
      refine ite_matches (both.takeAnchor _) ?_
      refine ite_matches (both.takeAnchor _) ?_
      refine ite_matches both.takeTag ?_
      refine ite_matches (both.takeBlock _) ?_
      refine ite_matches (both.takeBlock _) ?_
      refine ite_matches (both.takeQuoted _) ?_
      refine ite_matches (both.takeQuoted _) ?_
      exact ite_matches both.takePlain (.error _)

theorem take (twin : Twin d plain plain' base s s') :
    Matches (Twin d plain plain' base) (take s) (take s') := by
  have skipped := twin.toNextToken (s.here.rest.length + 1)
  obtain ⟨done, count, floor⟩ := twin
  exact skipped.dropStale.bind fun _ _ twin => twin.takeHere

end Twin

/-! ## Runs -/

variable {d : Date} {plain plain' : Bool} {base : List Token} {s s' : State}

theorem requoted_same : ∀ ts : List Token, Requoted ts ts
  | [] => .nil
  | t :: ts => .same t (requoted_same ts)

theorem requoted_append (front : List Token) {ts ts' : List Token} (left : Requoted ts ts') :
    Requoted (front ++ ts) (front ++ ts') := by
  induction front with
  | nil => exact left
  | cons t front ih => exact .same t ih

theorem Twin.requoted (twin : Twin d plain plain' base s s') :
    Requoted s.done.reverse s'.done.reverse := by
  cases twin with
  | @twin front done count floor =>
      rw [done]
      simp only [List.reverse_append, List.reverse_cons, List.append_assoc, List.cons_append,
        List.nil_append]
      exact requoted_append _ (.date d _ _ (requoted_same _))

/-- A run that goes on is that of the state behind its next token. -/
theorem run_of_take {u : State} (goesOn : s.finished = false) (taken : Lexer.take s = .ok u)
    (fuel : Nat) : run (fuel + 1) s = run fuel u := by
  simp only [run, goesOn, taken, Bool.false_eq_true, if_false]

/-- Runs that take their next tokens alike are alike, if they are from there on. -/
theorem run_step {R : State → State → Prop} {fuel fuel' : Nat} (goesOn : s.finished = false)
    (goesOn' : s'.finished = false) (next : Matches R (Lexer.take s) (Lexer.take s'))
    (behind : ∀ u u', R u u' → (run fuel u).fault = none →
      Requoted (run fuel u).tokens (run fuel' u').tokens ∧ (run fuel' u').fault = none)
    (whole : (run (fuel + 1) s).fault = none) :
    Requoted (run (fuel + 1) s).tokens (run (fuel' + 1) s').tokens ∧
      (run (fuel' + 1) s').fault = none := by
  cases taken : Lexer.take s with
  | error f =>
      simp only [run, goesOn, taken, Bool.false_eq_true, if_false] at whole
      cases whole
  | ok u =>
      rw [taken] at next
      cases taken' : Lexer.take s' with
      | error f =>
          rw [taken'] at next
          cases next
      | ok u' =>
          rw [taken'] at next
          rw [run_of_take goesOn taken] at whole ⊢
          rw [run_of_take goesOn' taken']
          cases next with
          | ok related => exact behind u u' related whole

/-- **Twins read what follows alike**, if it is read to its end. -/
theorem run_twin (twin : Twin d plain plain' base s s') {fuel fuel' : Nat} (more : fuel ≤ fuel')
    (whole : (run fuel s).fault = none) :
    Requoted (run fuel s).tokens (run fuel' s').tokens ∧ (run fuel' s').fault = none := by
  induction fuel generalizing fuel' s s' with
  | zero => cases whole
  | succ fuel ih =>
      obtain ⟨fuel', rfl⟩ : ∃ n, fuel' = n + 1 := ⟨fuel' - 1, by omega⟩
      have finished : s'.finished = s.finished := by
        obtain ⟨done, count, floor⟩ := twin
        rfl
      cases ended : s.finished with
      | true =>
          have requoted := twin.requoted
          simp only [run, finished, ended, if_true]
          exact ⟨requoted, trivial⟩
      | false =>
          exact run_step ended (finished.trans ended) twin.take
            (fun u u' twin => ih twin (by omega)) whole

end Overdue.Document.Lexer
