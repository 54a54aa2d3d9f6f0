import ListQuery.Proofs.Filter.FirstFault

/-! How deep the parser goes. Where tokens open one parenthesis more than a limit allows, a step has
come to its result without a look at what follows: it has failed, or it has left that parenthesis to
others. The whole parser leaves nothing to others, so it fails there, and it is never inside more
groups than the limit allows. -/

namespace ListQuery.Filter

/-! ### Too many parentheses -/

/-- At some point more than `limit` parentheses are open. -/
def Crowded (limit : Nat) (tokens : List Token) : Prop :=
  ¬ OpenAtMost limit (kinds tokens)

section Crowded
variable {limit : Nat} {token : Token} {tokens rest : List Token}

theorem Crowded.exists_cons (crowded : Crowded limit tokens) :
    ∃ token rest, tokens = token :: rest := by
  cases tokens with
  | nil => exact absurd (openAtMost_of_length (Nat.zero_le limit)) crowded
  | cons token rest => exact ⟨token, rest, rfl⟩

theorem Crowded.of_plain (crowded : Crowded limit (token :: rest)) (plain : Plain token.kind) :
    Crowded limit rest :=
  fun few => crowded (few.cons plain)

/-- Behind an opening parenthesis one fewer has to be open for there to be too many. -/
theorem Crowded.of_opening (crowded : Crowded (limit + 1) (token :: rest))
    (opens : token.kind = .opening) : Crowded limit rest := by
  intro few
  rw [Crowded, kinds_cons, opens] at crowded
  exact crowded (openAtMost_succ_opening.mpr few)

theorem openAtMost_cons_closing {s : List TokenKind} (few : OpenAtMost (limit + 1) s) :
    OpenAtMost limit (.closing :: s) := by
  intro front leads
  rcases List.prefix_cons_iff.mp leads with rfl | ⟨rest, rfl, follows⟩
  · simp
  · have counted := few rest follows
    rw [List.count_cons_self, List.count_cons_of_ne (by simp)]
    omega

/-- Behind a closing parenthesis one more has to be open for there to be too many. -/
theorem Crowded.of_closing (crowded : Crowded limit (token :: rest))
    (closes : token.kind = .closing) : Crowded (limit + 1) rest := by
  intro few
  rw [Crowded, kinds_cons, closes] at crowded
  exact crowded (openAtMost_cons_closing few)

end Crowded

/-- Tokens decide what comes of a step, whatever follows them: it fails, or what it leaves of them
still opens too many parentheses. -/
inductive Settled {α : Type} (limit : Nat) (front : List Token)
    (run : List Token → Except QueryError (α × List Token)) : Prop where
  | failed (error : QueryError) (same : ∀ back, run (front ++ back) = .error error) :
    Settled limit front run
  | left (a : α) {rest : List Token} (same : ∀ back, run (front ++ back) = .ok (a, rest ++ back))
      (crowded : Crowded limit rest) : Settled limit front run

/-- A step never goes on behind a parenthesis that is one too many. -/
def Stops {α : Type} (limit : Nat) (run : List Token → Except QueryError (α × List Token)) : Prop :=
  ∀ front, Crowded limit front → Settled limit front run

section Settled
variable {α β : Type} {limit : Nat} {front tokens : List Token}
  {run other : List Token → Except QueryError (α × List Token)}

/-- One step can do as another does on other tokens. -/
theorem Settled.congr (settled : Settled limit tokens run)
    (step : ∀ back, other (front ++ back) = run (tokens ++ back)) : Settled limit front other := by
  cases settled with
  | failed error same => exact .failed error fun back => (step back).trans (same back)
  | left a same crowded => exact .left a (fun back => (step back).trans (same back)) crowded

theorem Settled.map (settled : Settled limit front run) (change : α → β) :
    Settled limit front fun tokens => (run tokens).map fun found => (change found.1, found.2) := by
  cases settled with
  | failed error same =>
    refine .failed error fun back => ?_
    rw [same]
    rfl
  | left a same crowded =>
    refine .left (change a) (fun back => ?_) crowded
    rw [same]
    rfl

end Settled

namespace Grammar

variable {limit levels groups : Nat} {inner : Option (Parser Filter)} {token : Token}
  {front rest : List Token}

/-! ### Literals and clauses -/

theorem values_more {comma : Token} {value : Option String}
    (found : literal? token.kind = some value) (separates : comma.kind = .comma) :
    values (token :: comma :: rest) =
      (values rest).map fun later => (value :: later.1, later.2) := by
  simp only [values, found, separates, if_true]
  cases values rest <;> rfl

theorem values_stops : Stops limit values := by
  intro front crowded
  induction front using values.induct with
  | case1 => exact absurd crowded.exists_cons (by simp)
  | case2 token rest none =>
    refine .failed (.grammar (.found .value token.kind) (some token.start)) fun back => ?_
    simp only [List.cons_append, values, none, refuse]
  | case3 token value found =>
    have plain : Plain token.kind := (literal?_eq_some_iff.mp found).plain
    exact absurd (crowded.of_plain plain).exists_cons (by simp)
  | case4 token value found comma rest separates _ _ _ ih
  | case5 token value found comma rest separates _ _ ih =>
    have plain : Plain token.kind := (literal?_eq_some_iff.mp found).plain
    have behind := (crowded.of_plain plain).of_plain (by simp [Plain, separates])
    exact ((ih behind).map (value :: ·)).congr fun back => values_more found separates
  | case6 token value found comma rest other =>
    have plain : Plain token.kind := (literal?_eq_some_iff.mp found).plain
    refine .left [value] (fun back => ?_) (crowded.of_plain plain)
    simp only [List.cons_append, values, found, if_neg other]

/-- An asterisk is told apart by one token. -/
theorem star_append (crowded : Crowded limit front) :
    Crowded limit (star front).2 ∧
      ∀ back, star (front ++ back) = ((star front).1, (star front).2 ++ back) := by
  obtain ⟨token, rest, rfl⟩ := crowded.exists_cons
  by_cases mark : token.kind = .asterisk
  · have plain : Plain token.kind := by simp [Plain, mark]
    simp only [List.cons_append, star, if_pos mark]
    exact ⟨crowded.of_plain plain, fun _ => trivial⟩
  · simp only [List.cons_append, star, if_neg mark]
    exact ⟨crowded, fun _ => trivial⟩

theorem clause_stops (property : String) : Stops limit (clause property) := by
  intro front crowded
  obtain ⟨token, rest, rfl⟩ := crowded.exists_cons
  cases kind : token.kind with
  | operator op =>
    obtain ⟨behind, starred⟩ := star_append (crowded.of_plain (by simp [Plain, kind]))
    have settled := (values_stops _ behind).map fun listed =>
      Filter.clause property op listed false (star rest).1
    refine settled.congr fun back => ?_
    rw [List.cons_append, clause_operator kind, starred]
  | equalsSign =>
    refine .failed (.grammar (.unknownOperator "=") (some token.start)) fun back => ?_
    simp only [List.cons_append, clause, kind]
  | _ =>
    refine .failed (.grammar (.found .operator token.kind) (some token.start)) fun back => ?_
    simp only [List.cons_append, clause, kind, refuse]

/-! ### Groups -/

/-- Exclamation marks are told apart from what follows them. -/
theorem negations_append (crowded : Crowded limit front) :
    ∃ token rest, (negations front).2 = token :: rest ∧ Crowded limit (token :: rest) ∧
      ∀ back, negations (front ++ back) = ((negations front).1, token :: (rest ++ back)) := by
  induction front with
  | nil => exact absurd crowded.exists_cons (by simp)
  | cons first more ih =>
    by_cases mark : first.kind = .exclamation
    · obtain ⟨token, rest, behind, crowded, read⟩ := ih (crowded.of_plain (by simp [Plain, mark]))
      refine ⟨token, rest, ?_, crowded, fun back => ?_⟩
      · rw [negations_exclamation mark, behind]
      · rw [List.cons_append, negations_exclamation mark, negations_exclamation mark, read]
    · refine ⟨first, more, ?_, crowded, fun back => ?_⟩
      · rw [negations_other mark]
      · rw [List.cons_append, negations_other mark, negations_other mark]

/-- A group is not opened where it would be one too many, and one that is opened leaves room for one
fewer. -/
theorem group_stops (within : ∀ n, groups = n + 1 → Stops n (disjunction levels n).run) :
    Stops groups (group (inside levels groups)) := by
  intro front crowded
  obtain ⟨token, rest, behind, crowded, read⟩ := negations_append crowded
  by_cases opens : token.kind = .opening
  · cases groups with
    | zero =>
      refine .failed (.grammar (.tooManyGroups maxDepth) (some token.start)) fun back => ?_
      simp only [group, read, opens, inside, if_true]
    | succ n =>
      cases within n rfl rest (crowded.of_opening opens) with
      | failed error same =>
        refine .failed error fun back => ?_
        simp only [group, read, opens, inside, if_true, same]
      | left f same crowded =>
        obtain ⟨closing, later, rfl⟩ := crowded.exists_cons
        by_cases closes : closing.kind = .closing
        · refine .left (f.toggled (negations front).1) (fun back => ?_) (crowded.of_closing closes)
          simp only [group, read, opens, inside, if_true, same, List.cons_append, closes]
        · refine .failed (.grammar (.unmatchedOpening token.start) (some closing.start))
            fun back => ?_
          simp only [group, read, opens, inside, if_true, same, List.cons_append, if_neg closes]
  · refine .failed (.grammar (.found .group token.kind) (some token.start)) fun back => ?_
    simp only [group, read, if_neg opens, refuse]

/-! ### Terms -/

/-- The limit on levels does not depend on what follows. -/
theorem settled_quantified {run : List Token → Except QueryError (Filter × List Token)}
    {property : String} {position : Nat} {quantifier : Quantifier}
    (settled : Settled limit front run) :
    Settled limit front fun tokens =>
      quantified levels property position quantifier (run tokens) := by
  cases settled with
  | failed error same =>
    refine .failed error fun back => ?_
    rw [same]
    rfl
  | left f same crowded =>
    by_cases low : f.height < levels
    · refine .left (.collection property f quantifier false) (fun back => ?_) crowded
      simp only [same, quantified, if_pos low]
    · refine .failed (.grammar (.tooManyLevels levels) (some position)) fun back => ?_
      simp only [same, quantified, if_neg low]

theorem afterProperty_stops (levels : Nat) (property : String) (position : Nat)
    (groupStops : Stops limit (group inner)) :
    Stops limit (afterProperty levels inner property position) := by
  intro front crowded
  obtain ⟨token, rest, rfl⟩ := crowded.exists_cons
  cases kind : token.kind with
  | asterisk =>
    have behind := crowded.of_plain (by simp [Plain, kind])
    obtain ⟨next, more, rfl⟩ := behind.exists_cons
    cases operator : next.kind.isOperator with
    | true =>
      exact (settled_quantified (clause_stops "" _ behind)).congr fun back =>
        afterProperty_allElements kind operator
    | false =>
      exact (settled_quantified (groupStops _ behind)).congr fun back =>
        afterProperty_all kind operator
  | opening =>
    exact (settled_quantified (groupStops _ crowded)).congr fun back =>
      afterProperty_any (Or.inr kind)
  | exclamation =>
    exact (settled_quantified (groupStops _ crowded)).congr fun back =>
      afterProperty_any (Or.inl kind)
  | _ =>
    refine (clause_stops property _ crowded).congr fun back => ?_
    rw [List.cons_append, afterProperty, kind]

theorem positive_stops (levels : Nat) (groupStops : Stops limit (group inner)) :
    Stops limit (positive levels inner) := by
  intro front crowded
  obtain ⟨token, rest, rfl⟩ := crowded.exists_cons
  cases kind : token.kind with
  | opening =>
    refine (groupStops _ crowded).congr fun back => ?_
    rw [List.cons_append, positive, kind]
  | identifier property =>
    have behind := crowded.of_plain (by simp [Plain, kind])
    have settled := afterProperty_stops levels property token.start groupStops _ behind
    refine settled.congr fun back => ?_
    rw [List.cons_append, positive, kind]
  | _ =>
    refine .failed (.grammar (.found .propertyOrGroup token.kind) (some token.start)) fun back => ?_
    simp only [List.cons_append, positive, kind, refuse]

theorem term_stops (groupStops : Stops limit (group inner)) :
    Stops limit (term levels inner).run := by
  intro front crowded
  obtain ⟨token, rest, behind, crowded, read⟩ := negations_append crowded
  have settled := (positive_stops levels groupStops _ crowded).map (toggled (negations front).1)
  refine settled.congr fun back => ?_
  rw [term_eq_map, read]
  rfl

/-! ### Joined operands -/

/-- At a joining token everything turns on the operand behind it. -/
theorem joinFrom_joins {joins : TokenKind} {join : Filter → Filter → Bool → Filter}
    {operand : Parser Filter} (separates : token.kind = joins) (left : Filter)
    (tokens : List Token) :
    joinFrom levels joins join operand left (token :: tokens) =
      match operand.run tokens with
      | .error error => .error error
      | .ok (right, after) =>
        if max left.height right.height < levels then
          joinFrom levels joins join operand (join left right false) after
        else .error (.grammar (.tooManyLevels levels) (some token.start)) := by
  rw [joinFrom, if_pos separates]
  split <;> rename_i found <;> rw [found]

theorem joinFrom_stops (levels : Nat) {joins : TokenKind} (plain : Plain joins)
    (join : Filter → Filter → Bool → Filter) {operand : Parser Filter}
    (each : Stops limit operand.run) (left : Filter) :
    Stops limit (joinFrom levels joins join operand left) := by
  intro front crowded
  induction same : front.length using Nat.strongRecOn generalizing front left with
  | ind size ih =>
    obtain ⟨token, rest, rfl⟩ := crowded.exists_cons
    by_cases separates : token.kind = joins
    · cases each rest (crowded.of_plain (separates ▸ plain)) with
      | failed error failed =>
        refine .failed error fun back => ?_
        rw [List.cons_append, joinFrom_joins separates, failed]
      | @left right after read beyond =>
        have shorter : after.length < rest.length := by
          have found := read []
          rw [List.append_nil, List.append_nil] at found
          exact operand.progress found
        by_cases low : max left.height right.height < levels
        · have fewer : after.length < size := same ▸ Nat.lt_succ_of_lt shorter
          refine (ih _ fewer (join left right false) after beyond rfl).congr fun back => ?_
          rw [List.cons_append, joinFrom_joins separates, read]
          exact if_pos low
        · refine .failed (.grammar (.tooManyLevels levels) (some token.start)) fun back => ?_
          rw [List.cons_append, joinFrom_joins separates, read]
          exact if_neg low
    · refine .left left (fun back => ?_) crowded
      rw [List.cons_append, joinFrom, if_neg separates]

theorem joined_stops {joins : TokenKind} (plain : Plain joins)
    {join : Filter → Filter → Bool → Filter} {operand : Parser Filter}
    (each : Stops limit operand.run) :
    Stops limit (joined levels joins join operand).run := by
  intro front crowded
  cases each front crowded with
  | failed error same =>
    refine .failed error fun back => ?_
    simp only [joined, same]
  | left first same beyond =>
    refine (joinFrom_stops levels plain join each first _ beyond).congr fun back => ?_
    simp only [joined, same]

/-- With so many groups to open, the parser never goes on behind the opening of another one. -/
theorem disjunction_stops (levels groups : Nat) : Stops groups (disjunction levels groups).run := by
  have stops (groups : Nat)
      (within : ∀ n, groups = n + 1 → Stops n (disjunction levels n).run) :
      Stops groups (disjunction levels groups).run := by
    have terms : Stops groups (term levels (inside levels groups)).run :=
      term_stops (group_stops within)
    rw [disjunction_eq]
    exact joined_stops (by simp [Plain]) (joined_stops (by simp [Plain]) terms)
  induction groups with
  | zero => exact stops 0 fun n same => absurd same (Nat.succ_ne_zero n).symm
  | succ groups ih =>
    refine stops (groups + 1) fun n same => ?_
    cases same
    exact ih

end Grammar

open Grammar in
/-- Once one group more than the limit would be open, the parser has failed, whatever follows. -/
theorem ofTokens_of_crowded {front : List Token} (crowded : Crowded maxDepth front) :
    ∃ error, ∀ back, ofTokens (front ++ back) = .error error := by
  cases disjunction_stops maxDepth maxDepth front crowded with
  | failed error same =>
    refine ⟨error, fun back => ?_⟩
    rw [ofTokens, same]
  | left f same beyond =>
    obtain ⟨token, rest, rfl⟩ := beyond.exists_cons
    refine ⟨.grammar (if token.kind = .closing then .unmatchedClosing else .leftOver token.kind)
      (some token.start), fun back => ?_⟩
    simp only [ofTokens, same, List.cons_append]

end ListQuery.Filter
