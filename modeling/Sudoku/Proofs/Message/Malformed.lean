import Sudoku.Document.Message
import Sudoku.Message.Decoding
import Sudoku.Proofs.Error
import Sudoku.Proofs.Solver.Validation

/-!
# Malformed input

Reading a document and decoding a message fail because of the form of the input and for
no other reason: a part that is missing, a symbol that the alphabet or the domain does
not have, a domain or rows of cells that nothing can be built from.
-/

namespace Sudoku

open Error (IsMalformed OnlyMalformed)

variable {alphabet : Alphabet}

/-! ### Domains and grids -/

theorem Domain.onlyMalformed_ofList (listed : List (Symbol alphabet)) :
    OnlyMalformed (ofList listed) := by
  unfold ofList
  split
  · exact .of_error (Error.isMalformed_malformed _ _)
  · split
    · exact .of_error (Error.isMalformed_malformed _ _)
    · exact .of_ok _

theorem Domain.onlyMalformed_default (size : Nat) :
    OnlyMalformed (default size : Except Error (Domain alphabet)) := by
  unfold default
  split
  · exact onlyMalformed_ofList _
  · exact .of_error (Error.isMalformed_malformed _ _)

namespace Grid

variable {rows : List (List (Cell alphabet))} {box : BoxShape} {error : Error}

theorem isMalformed_of_lengthFlaw? {width : Nat}
    (flawed : lengthFlaw? width rows = some error) : error.IsMalformed := by
  obtain ⟨place, _, found⟩ := List.exists_of_findSome?_eq_some flawed
  simp only [Option.ite_none_left_eq_some, Option.some.injEq] at found
  rw [← found.2]
  exact Error.isMalformed_malformed _ _

theorem isMalformed_of_overridesFlaw? {height width : Nat}
    (flawed : overridesFlaw? height width rows = some error) : error.IsMalformed := by
  obtain ⟨_, _, rowFlawed⟩ := List.exists_of_findSome?_eq_some flawed
  obtain ⟨_, _, cellFlawed⟩ := List.exists_of_findSome?_eq_some rowFlawed
  obtain ⟨reason, _, rfl⟩ := Option.map_eq_some_iff.1 cellFlawed
  exact Error.isMalformed_malformed _ _

/-- Rows that no grid can be built from are malformed. -/
theorem isMalformed_of_flaw? (flawed : flaw? rows box = some error) : error.IsMalformed := by
  simp only [flaw?] at flawed
  split at flawed
  · rw [← Option.some.inj flawed]
    exact Error.isMalformed_malformed _ _
  · simp only [Option.or_eq_some_iff, Option.map_eq_some_iff] at flawed
    rcases flawed with lengths | ⟨_, ⟨reason, _, rfl⟩ | ⟨_, ⟨reason, _, rfl⟩ | ⟨_, overrides⟩⟩⟩
    · exact isMalformed_of_lengthFlaw? lengths
    · exact Error.isMalformed_malformed _ _
    · exact Error.isMalformed_malformed _ _
    · exact isMalformed_of_overridesFlaw? overrides

theorem onlyMalformed_build {domain : Except Error (Domain alphabet)} {explicitDomain : Bool}
    (only : OnlyMalformed domain) : OnlyMalformed (build rows box domain explicitDomain) := by
  unfold build
  split
  · next flawed => exact .of_error (isMalformed_of_flaw? flawed)
  · cases domain with
    | error error => exact .of_error (only error rfl)
    | ok domain => exact .of_ok _

theorem onlyMalformed_checkValues (grid : Grid alphabet) : OnlyMalformed grid.checkValues := by
  rcases grid.checkValues_cases with checked | ⟨_, _, _, _, _, failed⟩
  · rw [checked]
    exact .of_ok ()
  · rw [failed]
    exact .of_error (Error.isMalformed_malformed _ _)

end Grid

/-! ### Messages -/

theorem MessageField.onlyMalformed_require {part : Type} (location : Location)
    (field : String) (held : Option part) : OnlyMalformed (require location field held) := by
  cases held with
  | none => exact .of_error (Error.isMalformed_malformed _ _)
  | some part => exact .of_ok part

theorem MessageField.onlyMalformed_symbol (location : Location) (value : Int64) :
    OnlyMalformed (MessageField.symbol location value : Except Error (Symbol alphabet)) := by
  unfold MessageField.symbol
  split
  · exact .of_ok _
  · exact .of_error (Error.isMalformed_malformed _ _)

theorem CellMessage.onlyMalformed_decode (location : Location) (message : CellMessage) :
    OnlyMalformed (message.decode location : Except Error (Cell alphabet)) :=
  (OnlyMalformed.optionMapM (MessageField.onlyMalformed_symbol location) message.value).bind
    fun _ => .of_ok _

theorem CellMessage.onlyMalformed_decodeFrom (row column : Nat) (messages : List CellMessage) :
    OnlyMalformed (decodeFrom row column messages : Except Error (List (Cell alphabet))) := by
  induction messages generalizing column with
  | nil => exact .of_ok []
  | cons message rest inductionHypothesis =>
      exact (message.onlyMalformed_decode _).bind fun _ =>
        (inductionHypothesis (column + 1)).bind fun _ => .of_ok _

theorem RowMessage.onlyMalformed_decodeFrom (row : Nat) (messages : List RowMessage) :
    OnlyMalformed (decodeFrom row messages : Except Error (List (List (Cell alphabet)))) := by
  induction messages generalizing row with
  | nil => exact .of_ok []
  | cons message rest inductionHypothesis =>
      exact (MessageField.onlyMalformed_require _ _ _).bind fun _ =>
        (CellMessage.onlyMalformed_decodeFrom _ _ _).bind fun _ =>
          (inductionHypothesis (row + 1)).bind fun _ => .of_ok _

theorem GridMessage.onlyMalformed_decodeDomain (values : List Int64) :
    OnlyMalformed (decodeDomain values : Except Error (Domain alphabet)) :=
  (OnlyMalformed.mapM (MessageField.onlyMalformed_symbol .unknown) values).bind fun _ =>
    Domain.onlyMalformed_ofList _

/-- A message that no grid comes of is malformed. -/
theorem GridMessage.onlyMalformed_decode (message : GridMessage) :
    OnlyMalformed (message.decode : Except Error (Grid alphabet)) := by
  unfold decode
  refine (MessageField.onlyMalformed_require _ _ _).bind fun _ =>
    (MessageField.onlyMalformed_require _ _ _).bind fun _ =>
      (MessageField.onlyMalformed_require _ _ _).bind fun _ =>
        (RowMessage.onlyMalformed_decodeFrom _ _).bind fun rows => ?_
  cases message.domain with
  | none =>
      exact (Grid.onlyMalformed_build (Domain.onlyMalformed_default _)).bind fun grid =>
        grid.onlyMalformed_checkValues.bind fun _ => .of_ok _
  | some values =>
      exact (onlyMalformed_decodeDomain values).bind fun domain =>
        (Grid.onlyMalformed_build (.of_ok domain)).bind fun grid =>
          grid.onlyMalformed_checkValues.bind fun _ => .of_ok _

theorem GridMessage.onlyMalformed_decodeFrom (number : Nat) (messages : List GridMessage) :
    OnlyMalformed (decodeFrom number messages : Except Error (List (Grid alphabet))) := by
  induction messages generalizing number with
  | nil => exact .of_ok []
  | cons message rest inductionHypothesis =>
      exact (message.onlyMalformed_decode.mapError_inGrid number).bind fun _ =>
        (inductionHypothesis (number + 1)).bind fun _ => .of_ok _

/-- A message that no game comes of is malformed. -/
theorem GameMessage.onlyMalformed_decode (message : GameMessage) :
    OnlyMalformed (message.decode : Except Error (Game alphabet)) :=
  (MessageField.onlyMalformed_require _ _ _).bind fun _ =>
    (GridMessage.onlyMalformed_decodeFrom _ _).bind fun _ => .of_ok _

/-- A document that no message can be read from is malformed, whatever reads it. -/
theorem GameMessage.onlyMalformed_ofDocument (codec : Codec GameMessage) (document : String) :
    OnlyMalformed (ofDocument codec document) := by
  unfold ofDocument
  cases codec.read document with
  | ok message => exact .of_ok message
  | error text => exact .of_error (Error.isMalformed_malformed _ _)

end Sudoku
