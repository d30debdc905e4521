import Overdue.Proofs.Attempts
import Overdue.Proofs.Source.Sorts
import Overdue.Source.Parser

/-!
# What the grammar reads

Only some rules read definitions, all others read expressions: `Rule.sort`. `Peg.keeps` checks a
parsing expression against the sorts of the rules in it, and `keeps_body` says that the body of
every rule passes.

`Parser.soundAt` carries the check over to runs. The invariant is `State.Sound`: what is kept
between steps fits the rules that it was read by. The induction is on the fuel, for runs, chains and
whole readings together, since a text may hold a template whose holes are read on their own.

So everything that is read from a file is well sorted: `wellSorted_of_parse`.
-/
namespace Overdue.Source

/-! ## The check -/

/-- What may stand in a parse tree. -/
inductive NodeSort
  | expression
  | statement
deriving DecidableEq

def Node.HasSort : NodeSort → Node → Prop
  | .expression, n => n.IsExpression
  | .statement, n => n.WellSorted

theorem Node.IsExpression.hasSort {n : Node} (h : n.IsExpression) (sort : NodeSort) :
    n.HasSort sort := by
  cases sort with
  | expression => exact h
  | statement => exact h.wellSorted

/-- What the rule reads. -/
def Rule.sort : Rule → NodeSort
  | .file | .statements | .statement | .compoundStatement | .block | .classDefinition | .classBody
  | .functionDefinition | .functionBody | .ifStatement | .elifStatement | .elseBlock
  | .whileStatement | .forStatement | .withStatement | .tryStatement | .exceptBlock
  | .exceptStarBlock | .finallyBlock | .matchStatement | .caseBlock => .statement
  | _ => .expression

/-- Whether a branch has the sort as soon as its children have it. -/
def Construct.suits : NodeSort → Construct → Bool
  | .expression, c => !c.isDefinition
  | .statement, c => c != .decorated

theorem Node.hasSort_branch {sort : NodeSort} {c : Construct} {line : Nat} {ns : List Node}
    (suits : c.suits sort = true) (each : ∀ n ∈ ns, n.HasSort sort) :
    (Node.branch c line ns).HasSort sort := by
  cases sort with
  | expression =>
      refine Node.isExpression_branch_iff.mpr ⟨?_, each⟩
      simpa [Construct.suits] using suits
  | statement =>
      refine Node.wellSorted_branch (fun decorated => ?_) each
      rw [decorated] at suits
      cases suits

/-- Whether decorators are read first, so that a branch around it may be decorated. -/
def Peg.isDecorated : Peg Rule → Bool
  | .seq (.rule .decorators) _ => true
  | _ => false

/-- Whether what a parsing expression keeps has a sort, by the sorts of the rules in it. -/
def Peg.keeps : NodeSort → Peg Rule → Bool
  | sort, .rule r => sort = .statement || r.sort = .expression
  | sort, .seq a b => a.keeps sort && b.keeps sort
  | sort, .commit a b => a.keeps sort && b.keeps sort
  | sort, .alt a b => a.keeps sort && b.keeps sort
  | sort, .option a => a.keeps sort
  | sort, .many a => a.keeps sort
  | sort, .strict a => a.keeps sort
  | sort, .insist a _ => a.keeps sort
  | _, .chain first step => first.keeps .expression && step.keeps .expression
  | sort, .node c a => a.keeps sort && (c.suits sort || sort = .statement && a.isDecorated)
  | _, _ => true

/-- **The body of every rule keeps what the rule should read.** -/
theorem keeps_body (r : Rule) : r.body.keeps r.sort = true := by
  cases r <;> rfl

/-! ## Runs -/

namespace Parser

/-- The nodes that were read have the sort. -/
def Outcome.Fits (sort : NodeSort) : Outcome → Prop
  | .read ns _ => ∀ n ∈ ns, n.HasSort sort
  | _ => True

/-- What is kept fits the rules it was read by. -/
def State.Sound (s : State) : Prop :=
  ∀ (r : Rule) (pos : Nat) (o : Outcome), s.kept[(r, pos)]? = some o → o.Fits r.sort

/-- A run ends in a sound state, and what it has read has every sort that the check grants. -/
def Sound (e : Peg Rule) (x : Outcome × State) : Prop :=
  x.2.Sound ∧ ∀ sort, e.keeps sort = true → x.1.Fits sort

/-- What is known of all runs with some fuel. -/
structure SoundAt (fuel : Nat) : Prop where
  run : ∀ ts e s pos, s.Sound → Sound e (run fuel ts e s pos)
  chain : ∀ ts step line n s pos, s.Sound →
    (runChain fuel ts step line n s pos).2.Sound ∧
      (step.keeps .expression = true → n.IsExpression →
        (runChain fuel ts step line n s pos).1.Fits .expression)
  parse : ∀ r line code ns, parseWith fuel r line code = .ok ns → ∀ n ∈ ns, n.HasSort r.sort

theorem Outcome.Fits.of_expression {o : Outcome} (h : o.Fits .expression) (sort : NodeSort) :
    o.Fits sort := by
  cases o with
  | read ns next => exact fun n member => Node.IsExpression.hasSort (h n member) sort
  | _ => trivial

theorem sound_of_unread {e : Peg Rule} {x : Outcome × State} (sound : x.2.Sound)
    (unread : ∀ ns next s, x ≠ (.read ns next, s)) : Sound e x := by
  obtain ⟨o, s⟩ := x
  cases o with
  | read ns next => exact absurd rfl (unread ns next s)
  | _ => exact ⟨sound, fun _ _ => trivial⟩

theorem State.sound_empty : State.Sound {} := by
  intro r pos o kept
  simp at kept

theorem State.Sound.look {s : State} (h : s.Sound) (pos : Nat) : (s.look pos).Sound := by
  unfold State.look
  split <;> exact h

theorem State.Sound.keep {s : State} (h : s.Sound) {r : Rule} (pos : Nat) {o : Outcome}
    (fits : o.Fits r.sort) : State.Sound { s with kept := s.kept.insert (r, pos) o } := by
  intro r' pos' o' found
  rw [Std.HashMap.getElem?_insert] at found
  split at found
  · rename_i same
    cases found
    cases eq_of_beq same
    exact fits
  · exact h r' pos' o' found

theorem sound_withToken {e : Peg Rule} {ts : TokenList} {s : State} {pos : Nat}
    {k : Token → Outcome} (sound : s.Sound) (fits : ∀ t, (k t).Fits .expression) :
    Sound e (withToken ts s pos k) := by
  unfold withToken
  dsimp only
  split
  · exact ⟨sound.look pos, fun sort _ => (fits _).of_expression sort⟩
  · split <;> exact ⟨sound.look pos, fun _ _ => trivial⟩

theorem fits_takeIf (pos : Nat) (keep ok : Bool) (t : Token) :
    (takeIf pos keep ok t).Fits .expression := by
  unfold takeIf
  split
  · cases keep with
    | false => simp [Outcome.Fits]
    | true => simpa [Outcome.Fits] using (Node.isExpression_token t).hasSort _
  · trivial

theorem fits_takeNumber (pos : Nat) (t : Token) : (takeNumber pos t).Fits .expression := by
  unfold takeNumber
  split
  · split
    · simpa [Outcome.Fits] using (Node.isExpression_literal _ _).hasSort _
    · trivial
  · trivial

theorem sound_textTokens (ts : TokenList) (fuel : Nat) {s : State} (sound : s.Sound) (pos : Nat) :
    (textTokens ts fuel s pos).2.1.Sound := by
  induction fuel generalizing s pos with
  | zero => exact sound
  | succ fuel ih =>
      unfold textTokens
      dsimp only
      split
      · split
        · exact ih (sound.look pos) (pos + 1)
        · exact sound.look pos
      · exact sound.look pos

theorem Outcome.Fits.append {sort : NodeSort} {ns ms : List Node} {next last : Nat}
    (first : (Outcome.read ns next).Fits sort) (second : (Outcome.read ms last).Fits sort) :
    (Outcome.read (ns ++ ms) last).Fits sort := by
  intro n member
  rcases List.mem_append.mp member with left | right
  · exact first n left
  · exact second n right

theorem Outcome.fits_nil (sort : NodeSort) (pos : Nat) : (Outcome.read [] pos).Fits sort :=
  fun _ member => nomatch member

/-! ## One step -/

section

variable {fuel : Nat} (below : SoundAt fuel) (ts : TokenList) {s : State} (sound : s.Sound)
  (pos : Nat)

include below sound

/-- A rule reads by its body, or what was read before is taken again. -/
theorem sound_rule (r : Rule) : Sound (.rule r) (Parser.run (fuel + 1) ts (.rule r) s pos) := by
  have granted (sort : NodeSort) {o : Outcome} (fits : o.Fits r.sort)
      (keeps : (Peg.rule r).keeps sort = true) : o.Fits sort := by
    rw [Peg.keeps, Bool.or_eq_true] at keeps
    rcases keeps with statement | expression
    · rw [decide_eq_true_eq] at statement
      cases kind : r.sort with
      | expression => exact (kind ▸ fits).of_expression sort
      | statement => exact (statement.trans kind.symm) ▸ fits
    · rw [decide_eq_true_eq] at expression
      exact (expression ▸ fits).of_expression sort
  unfold Parser.run
  dsimp only
  split
  · rename_i o found
    refine ⟨sound, fun sort => granted sort ?_⟩
    split at found
    · exact sound r pos o found
    · cases found
  · have body := below.run ts r.body s pos sound
    have fits := body.2 r.sort (keeps_body r)
    generalize Parser.run fuel ts r.body s pos = x at body fits ⊢
    obtain ⟨o, s₁⟩ := x
    have ends (o' : Outcome) (settled : o'.Fits r.sort) : Sound (.rule r) (o',
        if r.isKept then { s₁ with kept := s₁.kept.insert (r, pos) o' } else s₁) := by
      refine ⟨?_, fun sort => granted sort settled⟩
      dsimp only
      split
      · exact body.1.keep pos settled
      · exact body.1
    cases o with
    | committed => exact ends .failed trivial
    | _ => exact ends _ fits

/-- A sequence, of which `commit` is one. -/
theorem sound_seq {e a b : Peg Rule} (form : e = .seq a b ∨ e = .commit a b) :
    Sound e (Parser.run (fuel + 1) ts e s pos) := by
  have first := below.run ts a s pos sound
  have granted (sort : NodeSort) (keeps : e.keeps sort = true) :
      a.keeps sort = true ∧ b.keeps sort = true := by
    rcases form with rfl | rfl <;> simpa [Peg.keeps] using keeps
  rcases form with rfl | rfl
  all_goals
    unfold Parser.run
    dsimp only
    generalize Parser.run fuel ts a s pos = x at first ⊢
    obtain ⟨o, s₁⟩ := x
    cases o with
    | read ns next =>
        have second := below.run ts b s₁ next first.1
        dsimp only
        generalize Parser.run fuel ts b s₁ next = y at second ⊢
        obtain ⟨o, s₂⟩ := y
        cases o with
        | read ms last =>
            refine ⟨second.1, fun sort keeps => ?_⟩
            obtain ⟨left, right⟩ := granted sort keeps
            exact (first.2 sort left).append (second.2 sort right)
        | _ => exact ⟨second.1, fun _ _ => trivial⟩
    | _ => exact ⟨first.1, fun _ _ => trivial⟩

theorem sound_alt (a b : Peg Rule) :
    Sound (.alt a b) (Parser.run (fuel + 1) ts (.alt a b) s pos) := by
  have first := below.run ts a s pos sound
  unfold Parser.run
  dsimp only
  generalize Parser.run fuel ts a s pos = x at first ⊢
  obtain ⟨o, s₁⟩ := x
  cases o with
  | read ns next =>
      refine ⟨first.1, fun sort keeps => ?_⟩
      rw [Peg.keeps, Bool.and_eq_true] at keeps
      exact first.2 sort keeps.1
  | failed =>
      have second := below.run ts b s₁ pos first.1
      refine ⟨second.1, fun sort keeps => ?_⟩
      rw [Peg.keeps, Bool.and_eq_true] at keeps
      exact second.2 sort keeps.2
  | _ => exact ⟨first.1, fun _ _ => trivial⟩

theorem sound_many (a : Peg Rule) :
    Sound (.many a) (Parser.run (fuel + 1) ts (.many a) s pos) := by
  have first := below.run ts a s pos sound
  unfold Parser.run
  dsimp only
  generalize Parser.run fuel ts a s pos = x at first ⊢
  obtain ⟨o, s₁⟩ := x
  cases o with
  | read ns next =>
      dsimp only
      split
      · exact ⟨first.1, fun sort _ => Outcome.fits_nil sort pos⟩
      · have second := below.run ts (.many a) s₁ next first.1
        generalize Parser.run fuel ts (.many a) s₁ next = y at second ⊢
        obtain ⟨o, s₂⟩ := y
        cases o with
        | read ms last =>
            refine ⟨second.1, fun sort keeps => ?_⟩
            exact (first.2 sort keeps).append (second.2 sort keeps)
        | _ => exact ⟨second.1, fun _ _ => trivial⟩
  | failed => exact ⟨first.1, fun sort _ => Outcome.fits_nil sort pos⟩
  | _ => exact ⟨first.1, fun _ _ => trivial⟩

theorem sound_option (a : Peg Rule) :
    Sound (.option a) (Parser.run (fuel + 1) ts (.option a) s pos) := by
  have inner := below.run ts a s pos sound
  unfold Parser.run
  dsimp only
  split
  · rename_i s₁ read
    rw [read] at inner
    exact ⟨inner.1, fun sort _ => Outcome.fits_nil sort pos⟩
  · exact inner

/-- Looking ahead reads nothing. -/
theorem sound_ahead (a : Peg Rule) :
    Sound (.ahead a) (Parser.run (fuel + 1) ts (.ahead a) s pos) := by
  have inner := below.run ts a s pos sound
  unfold Parser.run
  dsimp only
  split
  · rename_i ns next s₁ read
    rw [read] at inner
    exact ⟨inner.1, fun sort _ => Outcome.fits_nil sort pos⟩
  · rename_i unread
    exact sound_of_unread inner.1 unread

theorem sound_absent (a : Peg Rule) :
    Sound (.absent a) (Parser.run (fuel + 1) ts (.absent a) s pos) := by
  have inner := below.run ts a s pos sound
  unfold Parser.run
  dsimp only
  generalize Parser.run fuel ts a s pos = x at inner ⊢
  obtain ⟨o, s₁⟩ := x
  cases o with
  | read | blamed => exact ⟨inner.1, fun _ _ => trivial⟩
  | failed | committed => exact ⟨inner.1, fun sort _ => Outcome.fits_nil sort pos⟩

/-- What is read may be blamed all the same. -/
theorem sound_insist (a : Peg Rule) (blame : Evidence → Option Nat) :
    Sound (.insist a blame) (Parser.run (fuel + 1) ts (.insist a blame) s pos) := by
  have inner := below.run ts a s pos sound
  unfold Parser.run
  dsimp only
  split
  · rename_i ns next s₁ read
    rw [read] at inner
    split
    · exact ⟨inner.1, fun _ _ => trivial⟩
    · exact inner
  · exact inner

/-- A mistake is never read: it is blamed, or it fails. -/
theorem sound_mistake (a : Peg Rule) (blame : Evidence → Option Nat) :
    Sound (.mistake a blame) (Parser.run (fuel + 1) ts (.mistake a blame) s pos) := by
  have inner := below.run ts a s pos sound
  unfold Parser.run
  dsimp only
  split
  · split
    · rename_i ns next s₁ read
      rw [read] at inner
      split <;> exact ⟨inner.1, fun _ _ => trivial⟩
    · rename_i unread
      exact sound_of_unread inner.1 unread
  · exact ⟨sound, fun _ _ => trivial⟩

theorem sound_chain (a step : Peg Rule) :
    Sound (.chain a step) (Parser.run (fuel + 1) ts (.chain a step) s pos) := by
  have first := below.run ts a s pos sound
  unfold Parser.run
  dsimp only
  split
  · rename_i n next s₁ read
    rw [read] at first
    obtain ⟨kept, chain⟩ :=
      below.chain ts step (((ts.tokens[pos]?).map (·.line)).getD 0) n s₁ next first.1
    refine ⟨kept, fun sort keeps => ?_⟩
    rw [Peg.keeps, Bool.and_eq_true] at keeps
    refine (chain keeps.2 ?_).of_expression sort
    exact first.2 .expression keeps.1 n List.mem_cons_self
  · refine ⟨first.1, fun sort keeps => ?_⟩
    rw [Peg.keeps, Bool.and_eq_true] at keeps
    exact (first.2 .expression keeps.1).of_expression sort

end

theorem exists_succ_of_read {fuel : Nat} {ts : TokenList} {e : Peg Rule} {s s' : State}
    {pos next : Nat} {ns : List Node}
    (read : Parser.run fuel ts e s pos = (.read ns next, s')) : ∃ n, fuel = n + 1 := by
  cases fuel with
  | zero =>
      rw [Parser.run] at read
      cases read
  | succ n => exact ⟨n, rfl⟩

theorem read_node {fuel : Nat} {ts : TokenList} {c : Construct} {a : Peg Rule} {s s' : State}
    {pos next : Nat} {ns : List Node}
    (read : Parser.run fuel ts (.node c a) s pos = (.read ns next, s')) :
    ∃ line inside, ns = [.branch c line inside] := by
  obtain ⟨fuel, rfl⟩ := exists_succ_of_read read
  unfold Parser.run at read
  dsimp only at read
  split at read
  · cases read
    exact ⟨_, _, rfl⟩
  · rename_i noRead
    exact absurd read (noRead ns next s')

/-- Decorators are read as one node. Their rule is not kept, so that they are read by its body. -/
theorem decorators_of_run {fuel : Nat} {ts : TokenList} {s s' : State} {pos next : Nat}
    {ns : List Node} (read : Parser.run fuel ts (.rule .decorators) s pos = (.read ns next, s')) :
    ∃ d, ns = [d] := by
  obtain ⟨fuel, rfl⟩ := exists_succ_of_read read
  unfold Parser.run at read
  simp only [Rule.isKept] at read
  generalize body : Parser.run fuel ts Rule.decorators.body s pos = x at read
  obtain ⟨o, s₁⟩ := x
  cases o with
  | read ms last =>
      obtain ⟨line, inside, rfl⟩ := read_node body
      cases read
      exact ⟨_, rfl⟩
  | _ => cases read

theorem first_of_isDecorated {fuel : Nat} (ih : ∀ f ≤ fuel, SoundAt f) {ts : TokenList}
    {s s' : State} {pos next : Nat} {a : Peg Rule} {ns : List Node} (sound : s.Sound)
    (decorated : a.isDecorated = true) (read : Parser.run fuel ts a s pos = (.read ns next, s')) :
    ∀ d ∈ ns.head?, d.IsExpression := by
  unfold Peg.isDecorated at decorated
  split at decorated
  · rename_i b
    obtain ⟨fuel, rfl⟩ := exists_succ_of_read read
    have first := (ih fuel (Nat.le_succ fuel)).run ts (.rule .decorators) s pos sound
    unfold Parser.run at read
    dsimp only at read
    split at read
    · rename_i ms mid s₁ above
      obtain ⟨d, rfl⟩ := decorators_of_run above
      rw [above] at first
      have expression := first.2 .expression rfl d List.mem_cons_self
      split at read
      · cases read
        intro d' head
        cases head
        exact expression
      · rename_i noRead
        exact absurd read (noRead ns next s')
    · rename_i noRead
      exact absurd read (noRead ns next s')
  · cases decorated

theorem sound_node {fuel : Nat} (ih : ∀ f ≤ fuel, SoundAt f) (ts : TokenList) {s : State}
    (sound : s.Sound) (pos : Nat) (c : Construct) (a : Peg Rule) :
    Sound (.node c a) (Parser.run (fuel + 1) ts (.node c a) s pos) := by
  have inner := (ih fuel (Nat.le_refl fuel)).run ts a s pos sound
  unfold Parser.run
  dsimp only
  split
  · rename_i ns next s₁ read
    rw [read] at inner
    refine ⟨inner.1, fun sort keeps n member => ?_⟩
    rw [List.mem_singleton.mp member]
    rw [Peg.keeps, Bool.and_eq_true, Bool.or_eq_true, Bool.and_eq_true] at keeps
    obtain ⟨children, suits | ⟨statement, decorated⟩⟩ := keeps
    · exact Node.hasSort_branch suits (inner.2 sort children)
    · rw [decide_eq_true_eq] at statement
      subst statement
      refine Node.wellSorted_branch (fun _ => ?_) (inner.2 .statement children)
      exact first_of_isDecorated ih sound decorated read
  · rename_i noRead
    exact sound_of_unread inner.1 noRead

theorem sound_runChain {fuel : Nat} (below : SoundAt fuel) (ts : TokenList) (step : Peg Rule)
    (line : Nat) (n : Node) {s : State} (sound : s.Sound) (pos : Nat) :
    (runChain (fuel + 1) ts step line n s pos).2.Sound ∧
      (step.keeps .expression = true → n.IsExpression →
        (runChain (fuel + 1) ts step line n s pos).1.Fits .expression) := by
  have first := below.run ts step s pos sound
  unfold runChain
  split
  · rename_i c l ns next s₁ read
    rw [read] at first
    obtain ⟨kept, rest⟩ := below.chain ts step line (.branch c line (n :: ns)) s₁ next first.1
    refine ⟨kept, fun keeps expression => rest keeps ?_⟩
    have branch : (Node.branch c l ns).IsExpression :=
      first.2 .expression keeps (.branch c l ns) List.mem_cons_self
    obtain ⟨plain, each⟩ := Node.isExpression_branch_iff.mp branch
    exact Node.isExpression_branch_iff.mpr
      ⟨plain, List.forall_mem_cons.mpr ⟨expression, each⟩⟩
  · rename_i l s₁ read
    rw [read] at first
    exact ⟨first.1, fun _ _ => trivial⟩
  · rename_i o s₁ _ _ read
    rw [read] at first
    refine ⟨first.1, fun _ expression m member => ?_⟩
    rw [List.mem_singleton.mp member]
    exact expression

/-- The nodes of a joined text are those of its holes. -/
theorem holes_of_join {lastLine : Nat} {hole : Nat → List Char → Except Nat (List Node)}
    (expressions : ∀ line code ns, hole line code = .ok ns → ∀ n ∈ ns, n.IsExpression)
    {first : Bool} {j joined : Joined} {tokens : List Token}
    (before : ∀ n ∈ j.holes.getD [], n.IsExpression)
    (done : join lastLine hole first j tokens = .ok joined) :
    ∀ n ∈ joined.holes.getD [], n.IsExpression := by
  induction tokens generalizing first j with
  | nil =>
      cases done
      exact before
  | cons t rest ih =>
      unfold join at done
      dsimp only at done
      split at done
      · cases done
      · cases done
      · split at done
        · cases done
        · change join _ _ _ _ _ = _ at done
          refine ih ?_ done
          exact before
      · split at done
        · cases done
        · change join _ _ _ _ _ = _ at done
          refine ih ?_ done
          exact before
      · rename_i template text
        split at done
        · cases done
        · cases read : template.holes.mapM fun h =>
              hole (t.line + h.lines) ('(' :: h.code ++ [')']) with
          | error l =>
              rw [read] at done
              cases done
          | ok nodes =>
              rw [read] at done
              change (if _ then _ else _) = _ at done
              split at done
              · cases done
              · refine ih ?_ done
                intro n member
                rcases List.mem_append.mp member with old | new
                · exact before n old
                · obtain ⟨ns, among, member⟩ := List.mem_flatten.mp new
                  obtain ⟨h, -, done⟩ := exists_of_mapM_eq_ok read among
                  exact expressions _ _ ns done n member

theorem isExpression_joined {j : Joined} (holes : ∀ n ∈ j.holes.getD [], n.IsExpression)
    (line : Nat) : (j.node line).IsExpression := by
  unfold Joined.node
  split
  · rename_i nodes _ given
    rw [given] at holes
    exact Node.isExpression_branch_iff.mpr ⟨rfl, holes⟩
  · exact Node.isExpression_literal _ _
  · exact Node.isExpression_literal _ _

theorem sound_texts {fuel : Nat} (below : SoundAt fuel) (ts : TokenList) {s : State}
    (sound : s.Sound) (pos : Nat) : Sound .texts (Parser.run (fuel + 1) ts .texts s pos) := by
  have ended := sound_textTokens ts (ts.tokens.size + 1) sound pos
  unfold Parser.run
  dsimp only
  generalize textTokens ts (ts.tokens.size + 1) s pos = x at ended ⊢
  obtain ⟨tokens, s₁, next⟩ := x
  dsimp only at ended ⊢
  split
  · exact ⟨ended, fun _ _ => trivial⟩
  · exact ⟨ended, fun _ _ => trivial⟩
  · split
    · rename_i joined done
      refine ⟨ended, fun sort _ => Outcome.Fits.of_expression ?_ sort⟩
      intro n member
      rw [List.mem_singleton.mp member]
      refine isExpression_joined (holes_of_join (below.parse .hole) ?_ done) _
      exact List.forall_mem_nil _
    · exact ⟨ended, fun _ _ => trivial⟩

theorem sorted_of_parseWith {fuel : Nat} (below : SoundAt fuel) {r : Rule} {line : Nat}
    {code : List Char} {ns : List Node} (done : parseWith (fuel + 1) r line code = .ok ns) :
    ∀ n ∈ ns, n.HasSort r.sort := by
  have first := below.run (tokenize line code) (.rule r) {} 0 State.sound_empty
  unfold parseWith at done
  dsimp only at done
  split at done
  · rename_i read
    cases done
    rw [read] at first
    exact first.2 r.sort (by cases h : r.sort <;> simp [Peg.keeps, h])
  · cases done
  · split at done <;> cases done

/-- The decorators of a definition are looked at two steps down, which is why all smaller amounts of
fuel are needed. -/
theorem soundAt_succ {fuel : Nat} (ih : ∀ f ≤ fuel, SoundAt f) : SoundAt (fuel + 1) where
  run := by
    intro ts e s pos sound
    have below := ih fuel (Nat.le_refl fuel)
    cases e with
    | rule r => exact sound_rule below ts sound pos r
    | seq a b => exact sound_seq below ts sound pos (.inl rfl)
    | commit a b => exact sound_seq below ts sound pos (.inr rfl)
    | alt a b => exact sound_alt below ts sound pos a b
    | many a => exact sound_many below ts sound pos a
    | chain a step => exact sound_chain below ts sound pos a step
    | node c a => exact sound_node ih ts sound pos c a
    | texts => exact sound_texts below ts sound pos
    | option a => exact sound_option below ts sound pos a
    | ahead a => exact sound_ahead below ts sound pos a
    | absent a => exact sound_absent below ts sound pos a
    | insist a blame => exact sound_insist below ts sound pos a blame
    | mistake a blame => exact sound_mistake below ts sound pos a blame
    | strict a =>
        unfold Parser.run
        exact below.run ts a { s with diagnosing := false } pos sound
    | empty =>
        unfold Parser.run
        exact ⟨sound, fun sort _ => Outcome.fits_nil sort pos⟩
    | lit | keep | soft | name | mark =>
        unfold Parser.run
        exact sound_withToken sound fun t => fits_takeIf pos _ _ t
    | number =>
        unfold Parser.run
        exact sound_withToken sound (fits_takeNumber pos)
    | need word =>
        unfold Parser.run
        refine sound_withToken sound fun t => ?_
        split
        · exact Outcome.fits_nil .expression (pos + 1)
        · trivial
  chain ts step line n s pos sound :=
    sound_runChain (ih fuel (Nat.le_refl fuel)) ts step line n sound pos
  parse r line code ns done := sorted_of_parseWith (ih fuel (Nat.le_refl fuel)) done

theorem soundAt_zero : SoundAt 0 where
  run ts e s pos sound := by
    rw [Parser.run]
    exact ⟨sound, fun _ _ => trivial⟩
  chain ts step line n s pos sound := by
    rw [runChain]
    refine ⟨sound, fun _ expression m member => ?_⟩
    rw [List.mem_singleton.mp member]
    exact expression
  parse r line code ns done := by
    rw [parseWith] at done
    cases done

/-- **What runs read has every sort that the check grants.** -/
theorem soundAt (fuel : Nat) : SoundAt fuel := by
  induction fuel using Nat.strongRecOn with
  | ind fuel ih =>
      cases fuel with
      | zero => exact soundAt_zero
      | succ fuel => exact soundAt_succ fun f le => ih f (Nat.lt_succ_of_le le)

end Parser

/-! ## Files -/

theorem Node.outlines_eq_map (ns : List Node) : Node.outlines ns = ns.map Node.outline := by
  induction ns with
  | nil => rfl
  | cons n ns ih => rw [Node.outlines, ih, List.map_cons]

/-- **In a file that was read every decorator is an expression.** -/
theorem wellSorted_of_parse {code : List Char} {ns : List Node} (done : parse code = .ok ns) :
    ∀ t ∈ Node.outlines ns, t.WellSorted := by
  have sorted := (Parser.soundAt _).parse .file 1 code ns done
  rw [Node.outlines_eq_map]
  intro t member
  obtain ⟨n, among, rfl⟩ := List.mem_map.mp member
  exact Node.WellSorted.outline (sorted n among)

end Overdue.Source
