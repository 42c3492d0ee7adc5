import Mathlib.Logic.ExistsUnique
import Sudoku.Cancellation

/-!
# Families of tokens

The tokens of a family derive from one another, all of them from the first. A deadline that
is added on the way down to a token holds for this token and for those that derive from it,
and for no others. A flag that is raised through any token is raised for all of them, since
each token is handed the flag of the token that it derives from. So a token counts as
cancelled when any token was cancelled, or when the earliest of its deadlines has come.
-/

namespace Sudoku
namespace TokenFamily

/-! ### Calls -/

/-- A call on the token of a number. The span of a timeout begins at the time of the call. -/
inductive Call
  | clone (number : Nat)
  | withDeadline (number : Nat) (deadline : Time)
  | withTimeout (number : Nat) (now span : Time)
  | cancel (number : Nat)

namespace Call

/-- The number of the token that is called. -/
def number : Call → Nat
  | .clone number | .withDeadline number _ | .withTimeout number _ _ | .cancel number => number

/-- Whether a call derives a token. -/
def derives : Call → Bool
  | .clone _ | .withDeadline _ _ | .withTimeout _ _ _ => true
  | .cancel _ => false

/-- The deadline that a call adds for the token that it derives. A span that outlasts the
clock adds none. -/
def deadline? : Call → Option Time
  | .withDeadline _ deadline => some deadline
  | .withTimeout _ now span => if now + span ≤ Time.last then some (now + span) else none
  | .clone _ | .cancel _ => none

/-- What a call derives from the token that is called. -/
def derive? (call : Call) (token : CancelToken) : Option CancelToken :=
  match call with
  | .clone _ => some token
  | .withDeadline _ deadline => some (token.withDeadline deadline)
  | .withTimeout _ now span => some (token.withTimeout now span)
  | .cancel _ => none

/-- The calls that derive tokens derive one from any token. -/
theorem derives_eq_isSome_derive? (call : Call) (token : CancelToken) :
    call.derives = (call.derive? token).isSome := by
  cases call <;> rfl

/-- A derived token has the earliest of the deadlines of the token that was called and the
deadline that was added. -/
theorem deadline_of_derive? {call : Call} {token child : CancelToken} {deadlines : List Time}
    (deadline : token.deadline = deadlines.min?) (derived : call.derive? token = some child) :
    child.deadline = (call.deadline?.toList ++ deadlines).min? := by
  have added (more : Time) : (token.withDeadline more).deadline = (more :: deadlines).min? := by
    rw [CancelToken.withDeadline, deadline, List.min?_cons]
    cases deadlines.min? with
    | none => rfl
    | some least => exact congrArg some (Nat.min_comm least more)
  cases call with
  | clone =>
      rw [← Option.some.inj derived]
      exact deadline
  | withDeadline _ more =>
      rw [← Option.some.inj derived]
      exact added more
  | withTimeout _ now span =>
      rw [← Option.some.inj derived, CancelToken.withTimeout, deadline?]
      split
      · exact added (now + span)
      · exact deadline
  | cancel => simp [derive?] at derived

end Call

/-- A family after a call. -/
def after (family : TokenFamily) : Call → TokenFamily
  | .clone number => family.clone number
  | .withDeadline number deadline => family.withDeadline number deadline
  | .withTimeout number now span => family.withTimeout number now span
  | .cancel number => family.cancel number

/-- A family after calls made one after the other. -/
def follow (family : TokenFamily) (calls : List Call) : TokenFamily :=
  calls.foldl after family

/-- Each call is on a token that the family has by then. -/
def Admits (family : TokenFamily) : List Call → Prop
  | [] => True
  | call :: calls => call.number < family.tokens.length ∧ (family.after call).Admits calls

variable {family : TokenFamily} {calls : List Call} {number : Nat} {now moment : Time}

@[simp] theorem length_tokens_new : TokenFamily.new.tokens.length = 1 := rfl

@[simp] theorem follow_cons (family : TokenFamily) (call : Call) (calls : List Call) :
    family.follow (call :: calls) = (family.after call).follow calls := rfl

/-- A call adds what it derives. -/
theorem tokens_after (family : TokenFamily) (call : Call) :
    (family.after call).tokens =
      family.tokens ++ (call.derive? (family.token call.number)).toList := by
  cases call with
  | clone | withDeadline | withTimeout => rfl
  | cancel => exact (List.append_nil _).symm

/-- Only a call that cancels raises the flag. -/
theorem raised_after (family : TokenFamily) (call : Call) :
    (family.after call).raised = (family.raised || !call.derives) := by
  cases call with
  | clone | withDeadline | withTimeout => exact (Bool.or_false _).symm
  | cancel => exact (Bool.or_true _).symm

/-- A call that derives a token gives it the next number. -/
theorem length_after (family : TokenFamily) (call : Call) :
    (family.after call).tokens.length =
      family.tokens.length + if call.derives then 1 else 0 := by
  rw [tokens_after, List.length_append, Option.length_toList,
    call.derives_eq_isSome_derive? (family.token call.number)]

/-- A call leaves the tokens alone that there are. -/
theorem token_after (call : Call) (own : number < family.tokens.length) :
    (family.after call).token number = family.token number := by
  rw [token, tokens_after, List.getD_eq_getElem?_getD, List.getElem?_append_left own,
    ← List.getD_eq_getElem?_getD, token]

/-- What a call derives comes after the tokens that there are. -/
theorem derive?_token_after {call : Call} (derives : call.derives = true)
    (own : call.number < family.tokens.length) :
    call.derive? ((family.after call).token call.number) =
      some ((family.after call).token family.tokens.length) := by
  rw [call.derives_eq_isSome_derive? (family.token call.number)] at derives
  obtain ⟨child, derived⟩ := Option.isSome_iff_exists.1 derives
  rw [token_after call own, derived, token, tokens_after, derived,
    List.getD_eq_getElem?_getD, Option.toList_some, List.getElem?_concat_length,
    Option.getD_some]

/-- The calls that derive tokens give them their numbers in turn. -/
theorem length_follow (family : TokenFamily) (calls : List Call) :
    (family.follow calls).tokens.length =
      family.tokens.length + (calls.filter Call.derives).length := by
  induction calls generalizing family with
  | nil => rfl
  | cons call calls inductionHypothesis =>
      rw [follow_cons, inductionHypothesis, length_after, Nat.add_assoc]
      cases derives : call.derives with
      | false => simp [derives]
      | true => simp [derives, Nat.add_comm]

/-- Calls leave the tokens alone that there are. -/
theorem token_follow (calls : List Call) (own : number < family.tokens.length) :
    (family.follow calls).token number = family.token number := by
  induction calls generalizing family with
  | nil => rfl
  | cons call calls inductionHypothesis =>
      have longer := length_after family call
      rw [follow_cons, inductionHypothesis (by omega), token_after call own]

/-- The flag is raised by the calls that cancel. -/
theorem raised_follow (family : TokenFamily) (calls : List Call) :
    (family.follow calls).raised = true ↔
      family.raised = true ∨ ∃ number, .cancel number ∈ calls := by
  induction calls generalizing family with
  | nil => simp [follow]
  | cons call calls inductionHypothesis =>
      rw [follow_cons, inductionHypothesis, raised_after]
      cases call with
      | clone | withDeadline | withTimeout => simp [Call.derives]
      | cancel other => simp [Call.derives]

/-! ### Lines of descent -/

/-- On the way from the first token to the token of a number, calls have added these
deadlines, the latest first. The calls that derive tokens have made all tokens but the first,
in the order of their numbers. -/
inductive Inherits (calls : List Call) : Nat → List Time → Prop
  | first : Inherits calls 0 []
  | derived {made : Nat} {call : Call} {deadlines : List Time}
      (maker : (calls.filter Call.derives)[made]? = some call)
      (parent : Inherits calls call.number deadlines) :
      Inherits calls (made + 1) (call.deadline?.toList ++ deadlines)

/-- There is only one way to a token. -/
theorem Inherits.unique {deadlines others : List Time}
    (inherits : Inherits calls number deadlines) (inheritsToo : Inherits calls number others) :
    deadlines = others := by
  induction inherits generalizing others with
  | first =>
      cases inheritsToo
      rfl
  | derived maker _ inductionHypothesis =>
      cases inheritsToo with
      | derived makerToo parentToo =>
          rw [maker, Option.some.injEq] at makerToo
          subst makerToo
          rw [inductionHypothesis parentToo]

/-- The call that made a token was on an older one, from which it derives the token. -/
theorem Admits.derive?_eq (admits : family.Admits calls) {made : Nat} {call : Call}
    (maker : (calls.filter Call.derives)[made]? = some call) :
    call.number < family.tokens.length + made ∧
      call.derive? ((family.follow calls).token call.number) =
        some ((family.follow calls).token (family.tokens.length + made)) := by
  induction calls generalizing family made with
  | nil => simp at maker
  | cons first rest inductionHypothesis =>
      obtain ⟨own, admits⟩ := admits
      have longer := length_after family first
      rw [follow_cons]
      -- Only a call that derives takes up a number, and shifts the ones behind it.
      cases derives : first.derives with
      | false =>
          rw [List.filter_cons_of_neg (by simp [derives])] at maker
          simp only [derives, Bool.false_eq_true, if_false, Nat.add_zero] at longer
          rw [← longer]
          exact inductionHypothesis admits maker
      | true =>
          rw [List.filter_cons_of_pos derives] at maker
          simp only [derives, if_true] at longer
          cases made with
          | zero =>
              obtain rfl := Option.some.inj maker
              refine ⟨own, ?_⟩
              rw [Nat.add_zero, token_follow rest (by omega), token_follow rest (by omega)]
              exact derive?_token_after derives own
          | succ made =>
              obtain ⟨older, derived⟩ := inductionHypothesis admits maker
              rw [longer, Nat.add_right_comm, Nat.add_assoc] at older derived
              exact ⟨older, derived⟩

/-- There is a way to each token. -/
theorem exists_inherits (admits : TokenFamily.new.Admits calls)
    (own : number < (TokenFamily.new.follow calls).tokens.length) :
    ∃ deadlines, Inherits calls number deadlines := by
  induction number using Nat.strongRecOn with
  | _ number inductionHypothesis =>
      cases number with
      | zero => exact ⟨[], .first⟩
      | succ made =>
          rw [length_follow] at own
          have inside : made < (calls.filter Call.derives).length :=
            Nat.lt_of_succ_lt_succ (Nat.lt_of_lt_of_eq own (Nat.add_comm 1 _))
          have maker := List.getElem?_eq_getElem inside
          have older := (admits.derive?_eq maker).1
          rw [length_tokens_new, Nat.add_comm] at older
          rw [length_follow] at inductionHypothesis
          obtain ⟨deadlines, parent⟩ :=
            inductionHypothesis _ older (Nat.lt_trans older own)
          exact ⟨_, .derived maker parent⟩

/-- The deadline of a token is the earliest of those on the way to it. -/
theorem Inherits.deadline_eq {deadlines : List Time}
    (inherits : Inherits calls number deadlines) (admits : TokenFamily.new.Admits calls) :
    ((TokenFamily.new.follow calls).token number).deadline = deadlines.min? := by
  induction inherits with
  | first =>
      rw [token_follow calls (by decide)]
      rfl
  | @derived made call _ maker _ inductionHypothesis =>
      have derived := (admits.derive?_eq maker).2
      rw [length_tokens_new, Nat.add_comm] at derived
      exact Call.deadline_of_derive? inductionHypothesis derived

/-! ### Time -/

/-- A token counts as cancelled when the flag of its family is raised or its deadline has
come. -/
theorem isCancelled_iff (family : TokenFamily) (number : Nat) (now : Time) :
    family.isCancelled number now = true ↔
      family.raised = true ∨
        ∃ deadline, (family.token number).deadline = some deadline ∧ deadline ≤ now := by
  simp [isCancelled, CancelToken.isCancelled, Option.any_eq_true]

/-- No later call and no later time takes a cancellation back. -/
theorem isCancelled_follow (own : number < family.tokens.length) (calls : List Call)
    (later : now ≤ moment) (cancelled : family.isCancelled number now = true) :
    (family.follow calls).isCancelled number moment = true := by
  rw [isCancelled_iff, raised_follow, token_follow calls own]
  rcases (isCancelled_iff _ _ _).1 cancelled with raised | ⟨deadline, isDeadline, come⟩
  · exact .inl (.inl raised)
  · exact .inr ⟨deadline, isDeadline, Nat.le_trans come later⟩

end TokenFamily

/-! ### Flags in memory -/

/-- A token as it is handed out: itself, and the place of its flag in memory. -/
structure TokenHandle where
  token : CancelToken
  place : Nat

/-- The flags in memory, and the tokens of one family that were handed out, in the order
they were made. -/
structure TokenMemory where
  flags : List Bool
  handles : List TokenHandle

namespace TokenMemory

open TokenFamily

variable {family : TokenFamily} {calls : List Call} {number : Nat}

/-- The first token of a family gets a new flag behind those of others. -/
def allocate (others : List Bool) : TokenMemory :=
  ⟨others ++ [false], [⟨{}, others.length⟩]⟩

/-- Memory after a call. A derived token is handed the flag of the token that was called. A
token that is cancelled raises the flag that it was handed. -/
def after (memory : TokenMemory) (call : Call) : TokenMemory :=
  match memory.handles[call.number]? with
  | none => memory
  | some handle =>
      match call.derive? handle.token with
      | some token => { memory with handles := memory.handles ++ [⟨token, handle.place⟩] }
      | none => { memory with flags := memory.flags.set handle.place true }

/-- Memory after calls made one after the other. -/
def follow (memory : TokenMemory) (calls : List Call) : TokenMemory :=
  calls.foldl after memory

@[simp] theorem follow_cons (memory : TokenMemory) (call : Call) (calls : List Call) :
    memory.follow (call :: calls) = (memory.after call).follow calls := rfl

/-- Whether the token of a number counts as cancelled, as its flag in memory tells. -/
def isCancelled (memory : TokenMemory) (number : Nat) (now : Time) : Bool :=
  memory.handles[number]?.any fun handle =>
    handle.token.isCancelled (memory.flags.getD handle.place false) now

/-- A family in memory, all of its tokens with the one flag behind those of others. -/
def ofFamily (others : List Bool) (family : TokenFamily) : TokenMemory where
  flags := others ++ [family.raised]
  handles := family.tokens.map fun token => ⟨token, others.length⟩

/-- The tokens of a family are handed out with the flag of the family. -/
theorem getElem?_handles_ofFamily (others : List Bool) (own : number < family.tokens.length) :
    (ofFamily others family).handles[number]? =
      some ⟨family.token number, others.length⟩ := by
  rw [ofFamily, List.getElem?_map, TokenFamily.token, List.getD_eq_getElem?_getD,
    List.getElem?_eq_getElem own]
  rfl

/-- A call on a family in memory leads to the family after the call. -/
theorem after_ofFamily (others : List Bool) {call : Call}
    (own : call.number < family.tokens.length) :
    (ofFamily others family).after call = ofFamily others (family.after call) := by
  have tokens := tokens_after family call
  have raised := raised_after family call
  rw [call.derives_eq_isSome_derive? (family.token call.number)] at raised
  unfold after
  rw [getElem?_handles_ofFamily others own]
  cases derived : call.derive? (family.token call.number) with
  | none =>
      simp only [derived, Option.toList_none, List.append_nil, Option.isSome_none,
        Bool.not_false, Bool.or_true] at tokens raised
      simp [ofFamily, tokens, raised, derived, List.set_append_right]
  | some child =>
      simp only [derived, Option.toList_some, Option.isSome_some, Bool.not_true,
        Bool.or_false] at tokens raised
      simp [ofFamily, tokens, raised, derived]

/-- Calls on a family in memory lead to the family after the calls. The flags of others stay
as they are. -/
theorem follow_ofFamily (others : List Bool) (admits : family.Admits calls) :
    (ofFamily others family).follow calls = ofFamily others (family.follow calls) := by
  induction calls generalizing family with
  | nil => rfl
  | cons call calls inductionHypothesis =>
      obtain ⟨own, admits⟩ := admits
      rw [follow_cons, after_ofFamily others own, inductionHypothesis admits,
        TokenFamily.follow_cons]

/-- A token of a family in memory counts as cancelled when it does in the family. -/
theorem isCancelled_ofFamily (others : List Bool) (own : number < family.tokens.length)
    (now : Time) :
    (ofFamily others family).isCancelled number now = family.isCancelled number now := by
  rw [isCancelled, getElem?_handles_ofFamily others own]
  simp [ofFamily, TokenFamily.isCancelled]

end TokenMemory

namespace TokenFamily

variable {family : TokenFamily} {calls : List Call}

/-- After any calls on the tokens of a family, each token has one way down to it from the
first, and its deadline is the earliest of those that were added on the way, if any was. No
further call changes that. A token counts as cancelled exactly when some token of the family
was cancelled or its own deadline has come, and goes on doing so as time passes. It makes no
difference that the tokens share their flag by handing it on: every one of them is left with
the flag of the first, and the flags of other families are as they were. -/
theorem follow_consistent (admits : TokenFamily.new.Admits calls)
    (followed : TokenFamily.new.follow calls = family) :
    (∀ number < family.tokens.length, ∃! deadlines, Inherits calls number deadlines) ∧
    (∀ number deadlines, Inherits calls number deadlines →
      (family.token number).deadline = deadlines.min?) ∧
    (∀ number < family.tokens.length, ∀ later,
      (family.follow later).token number = family.token number) ∧
    (∀ number now, family.isCancelled number now = true ↔
      (∃ other, .cancel other ∈ calls) ∨
        ∃ deadline, (family.token number).deadline = some deadline ∧ deadline ≤ now) ∧
    (∀ number < family.tokens.length, ∀ later now moment, now ≤ moment →
      family.isCancelled number now = true →
      (family.follow later).isCancelled number moment = true) ∧
    ∀ others, (TokenMemory.allocate others).follow calls = TokenMemory.ofFamily others family ∧
      ∀ number < family.tokens.length, ∀ now,
        ((TokenMemory.allocate others).follow calls).isCancelled number now =
          family.isCancelled number now := by
  subst followed
  refine ⟨?_, fun number deadlines inherits => inherits.deadline_eq admits,
    fun number own later => token_follow later own, ?_,
    fun number own calls _ _ later => isCancelled_follow own calls later, ?_⟩
  · intro number own
    obtain ⟨deadlines, inherits⟩ := exists_inherits admits own
    exact ⟨deadlines, inherits, fun _ inheritsToo => inheritsToo.unique inherits⟩
  · intro number now
    rw [isCancelled_iff, raised_follow]
    simp [TokenFamily.new]
  · intro others
    have inMemory : (TokenMemory.allocate others).follow calls =
        TokenMemory.ofFamily others (TokenFamily.new.follow calls) :=
      TokenMemory.follow_ofFamily others admits
    refine ⟨inMemory, fun number own now => ?_⟩
    rw [inMemory, TokenMemory.isCancelled_ofFamily others own]

/-- Calls on a family: a deadline, a timeout that comes sooner, a second line of descent, a
timeout that outlasts the clock, and the cancellation of a token on that second line. -/
def branchingCalls : List Call :=
  [.withDeadline 0 9, .withTimeout 1 3 4, .clone 1, .withTimeout 2 1 Time.last, .cancel 3]

/-- The last token that these calls make has two deadlines on its way, the earlier of which
is its own. The first token has none, and counts as cancelled from the beginning of time. -/
theorem follow_consistent_branchingCalls :
    Inherits branchingCalls 4 [7, 9] ∧
      ((TokenFamily.new.follow branchingCalls).token 4).deadline = some 7 ∧
      ((TokenFamily.new.follow branchingCalls).token 0).deadline = none ∧
      (TokenFamily.new.follow branchingCalls).isCancelled 0 0 = true ∧
      ((TokenMemory.allocate [false]).follow branchingCalls).flags = [false, true] := by
  have admits : TokenFamily.new.Admits branchingCalls :=
    ⟨by decide, by decide, by decide, by decide, by decide, trivial⟩
  obtain ⟨_, deadlines, _, cancelled, _, inMemory⟩ := follow_consistent admits rfl
  have second : Inherits branchingCalls 1 [9] :=
    @Inherits.derived _ 0 (.withDeadline 0 9) [] rfl .first
  have third : Inherits branchingCalls 2 [7, 9] :=
    @Inherits.derived _ 1 (.withTimeout 1 3 4) [9] rfl second
  have last : Inherits branchingCalls 4 [7, 9] :=
    @Inherits.derived _ 3 (.withTimeout 2 1 Time.last) [7, 9] rfl third
  refine ⟨last, deadlines 4 _ last, deadlines 0 _ .first, ?_, ?_⟩
  · exact (cancelled 0 0).2 (.inl ⟨3, by simp [branchingCalls]⟩)
  · rw [(inMemory [false]).1]
    rfl

end TokenFamily
end Sudoku
