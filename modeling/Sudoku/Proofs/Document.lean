import Sudoku.Document.Configuration
import Sudoku.Document.Message
import Sudoku.Proofs.Json.Record

/-!
# Reading documents back

A message is read back from its document, with every part that is there and no other,
and so are the settings of the solver and of the service. A list without items is not
taken for a missing list. All of this holds for any codec that writes the compact text of
the JSON value of a message, and that reads JSON texts by the value that they spell.
-/

namespace Sudoku

/-! ### Messages -/

namespace CellMessage

/-- The fields of a cell. -/
def fields (message : CellMessage) : List (String × Option Json) :=
  [("value", message.value.map fun value => .integer value.toInt),
    ("width", message.width.map fun width => .integer width.toNat),
    ("height", message.height.map fun height => .integer height.toNat)]

/-- Cells are read back. -/
theorem inverts : Json.Inverts toJson ofJson? := by
  refine .record fields ?_ ?_ ?_ ?_
  · intro message
    simp [toJson, fields, Json.present]
  · intro message
    simp [fields]
  · intro message
    simp only [fields, List.forall_mem_cons, List.not_mem_nil, false_imp_iff, implies_true,
      and_true]
    exact ⟨fun _ => Json.Inverts.int64.faithful_map, fun _ => Json.Inverts.uint32.faithful_map,
      fun _ => Json.Inverts.uint32.faithful_map⟩
  · intro message json found
    simp only [fields, List.map_cons, List.map_nil] at found
    simp [ofJson?, found, Json.Inverts.int64.optional?_map, Json.Inverts.uint32.optional?_map]

end CellMessage

namespace RowMessage

/-- The fields of a row. -/
def fields (message : RowMessage) : List (String × Option Json) :=
  [("cells", message.cells.map fun cells => .array (cells.map CellMessage.toJson))]

/-- Rows are read back. -/
theorem inverts : Json.Inverts toJson ofJson? := by
  have cells := CellMessage.inverts.list
  refine .record fields ?_ ?_ ?_ ?_
  · intro message
    simp [toJson, fields, Json.present]
  · intro message
    simp [fields]
  · intro message
    simp only [fields, List.forall_mem_cons, List.not_mem_nil, false_imp_iff, implies_true,
      and_true]
    exact fun _ => cells.faithful_map
  · intro message json found
    simp only [fields, List.map_cons, List.map_nil] at found
    simp [ofJson?, found, cells.optional?_map]

end RowMessage

namespace GridMessage

/-- The fields of a grid. -/
def fields (message : GridMessage) : List (String × Option Json) :=
  [("rows", message.rows.map fun rows => .array (rows.map RowMessage.toJson)),
    ("box_width", message.boxWidth.map fun width => .integer width.toNat),
    ("box_height", message.boxHeight.map fun height => .integer height.toNat),
    ("domain", message.domain.map fun values =>
      .array (values.map fun value => .integer value.toInt))]

/-- Grids are read back. -/
theorem inverts : Json.Inverts toJson ofJson? := by
  have rows := RowMessage.inverts.list
  have domain := Json.Inverts.int64.list
  refine .record fields ?_ ?_ ?_ ?_
  · intro message
    simp [toJson, fields, Json.present]
  · intro message
    simp [fields]
  · intro message
    simp only [fields, List.forall_mem_cons, List.not_mem_nil, false_imp_iff, implies_true,
      and_true]
    exact ⟨fun _ => rows.faithful_map, fun _ => Json.Inverts.uint32.faithful_map,
      fun _ => Json.Inverts.uint32.faithful_map, fun _ => domain.faithful_map⟩
  · intro message json found
    simp only [fields, List.map_cons, List.map_nil] at found
    simp [ofJson?, found, rows.optional?_map, domain.optional?_map,
      Json.Inverts.uint32.optional?_map]

end GridMessage

namespace GameMessage

/-- The fields of a game. -/
def fields (message : GameMessage) : List (String × Option Json) :=
  [("grids", message.grids.map fun grids => .array (grids.map GridMessage.toJson))]

/-- Games are read back. -/
theorem inverts : Json.Inverts toJson ofJson? := by
  have grids := GridMessage.inverts.list
  refine .record fields ?_ ?_ ?_ ?_
  · intro message
    simp [toJson, fields, Json.present]
  · intro message
    simp [fields]
  · intro message
    simp only [fields, List.forall_mem_cons, List.not_mem_nil, false_imp_iff, implies_true,
      and_true]
    exact fun _ => grids.faithful_map
  · intro message json found
    simp only [fields, List.map_cons, List.map_nil] at found
    simp [ofJson?, found, grids.optional?_map]

end GameMessage

/-! ### Settings -/

namespace SolverConfiguration

/-- The fields of the settings of the solver, all of which are there. -/
def fields (configuration : SolverConfiguration) : List (String × Option Json) :=
  [("time_limit_ms", some (Json.orNull
      (configuration.timeLimitMs.map fun limit => .integer limit.toNat))),
    ("verify_solutions", some (.bool configuration.verifySolutions))]

/-- The settings of the solver are read back. -/
theorem inverts : Json.Inverts toJson ofJson? := by
  refine .record fields ?_ ?_ ?_ ?_
  · intro configuration
    rfl
  · intro configuration
    simp [fields]
  · intro configuration
    simp only [fields, List.forall_mem_cons, List.not_mem_nil, false_imp_iff, implies_true,
      and_true, Option.some.injEq, forall_eq']
    exact ⟨Json.Inverts.uint64.faithful_orNull _, Json.Inverts.bool.faithful _⟩
  · intro configuration json found
    simp only [fields, List.map_cons, List.map_nil] at found
    simp [ofJson?, found, Json.Inverts.uint64.optional?_orNull,
      Json.Inverts.bool.orDefault?_some]

end SolverConfiguration

namespace ServiceConfiguration

/-- The fields of the settings of the service, all of which are there. -/
def fields (configuration : ServiceConfiguration) : List (String × Option Json) :=
  [("solver", some configuration.solver.toJson),
    ("max_cells", some (Json.orNull
      (configuration.maxCells.map fun limit => .integer limit.toNat)))]

/-- The settings of the service are read back. -/
theorem inverts : Json.Inverts toJson ofJson? := by
  have solver := SolverConfiguration.inverts
  refine .record fields ?_ ?_ ?_ ?_
  · intro configuration
    rfl
  · intro configuration
    simp [fields]
  · intro configuration
    simp only [fields, List.forall_mem_cons, List.not_mem_nil, false_imp_iff, implies_true,
      and_true, Option.some.injEq, forall_eq']
    exact ⟨solver.faithful _, Json.Inverts.uint64.faithful_orNull _⟩
  · intro configuration json found
    simp only [fields, List.map_cons, List.map_nil] at found
    simp [ofJson?, found, solver.orDefault?_some, Json.Inverts.uint64.optional?_orNull]

end ServiceConfiguration

/-! ### Codecs -/

namespace Codec

variable {value : Type} {codec : Codec value} {toJson : value → Json}
  {ofJson? : Json → Option value}

/-- Every value is written as some document. -/
def WritesAll (codec : Codec value) : Prop :=
  ∀ held, ∃ document, codec.write held = .ok document

/-- What is relied on in a codec of values that are written as JSON values and read from
them. Nothing is asked of the codec on texts that are not JSON, or that are no text of a
value that can be read. -/
structure Conventional (codec : Codec value) (toJson : value → Json)
    (ofJson? : Json → Option value) : Prop where
  /-- A value is written, as the compact text of its JSON value. -/
  write_eq : ∀ held, codec.write held = .ok (toJson held).render
  /-- A JSON text is read by the JSON value that it spells, in whichever way. -/
  read_eq : ∀ (json : Json) (text : List Char) held, json.Spells text →
    ofJson? json = some held → codec.read (String.ofList text) = .ok held

/-- The codec for compact JSON is conventional. -/
theorem conventional_json (toJson : value → Json) (ofJson? : Json → Option value) :
    (Json.codec toJson ofJson?).Conventional toJson ofJson? where
  write_eq _ := rfl
  read_eq json text held spells read := by
    simp [Json.codec, spells.ofText?_eq, read]

/-- A conventional codec writes every value. -/
theorem Conventional.writesAll (conventional : codec.Conventional toJson ofJson?) :
    codec.WritesAll :=
  fun held => ⟨_, conventional.write_eq held⟩

/-- A conventional codec reads back what it writes, when the JSON values tell the values
apart. -/
theorem Conventional.read_write (conventional : codec.Conventional toJson ofJson?)
    (inverts : Json.Inverts toJson ofJson?) (held : value) :
    ∃ document, codec.write held = .ok document ∧ codec.read document = .ok held :=
  ⟨_, conventional.write_eq held, conventional.read_eq (toJson held) _ held
    (inverts.faithful held).spells_write (inverts.reads held)⟩

end Codec

/-! ### Documents -/

section

variable {messages : Codec GameMessage} {solvers : Codec SolverConfiguration}
  {services : Codec ServiceConfiguration}

/-- By conventional codecs, every message and all settings are written as documents, and read
back from them. -/
theorem ofDocument_toDocument
    (messagesConventional : messages.Conventional GameMessage.toJson GameMessage.ofJson?)
    (solversConventional :
      solvers.Conventional SolverConfiguration.toJson SolverConfiguration.ofJson?)
    (servicesConventional :
      services.Conventional ServiceConfiguration.toJson ServiceConfiguration.ofJson?) :
    (∀ message : GameMessage, ∃ document, message.toDocument messages = .ok document ∧
      GameMessage.ofDocument messages document = .ok message) ∧
    (∀ configuration, ∃ document, solvers.write configuration = .ok document ∧
      SolverConfiguration.ofDocument solvers document = .ok configuration) ∧
    ∀ configuration, ∃ document, services.write configuration = .ok document ∧
      ServiceConfiguration.ofDocument services document = .ok configuration := by
  refine ⟨fun message => ?_, fun configuration => ?_, fun configuration => ?_⟩
  · obtain ⟨document, written, read⟩ :=
      messagesConventional.read_write GameMessage.inverts message
    exact ⟨document, by rw [GameMessage.toDocument, written]; rfl,
      by rw [GameMessage.ofDocument, read]; rfl⟩
  · obtain ⟨document, written, read⟩ :=
      solversConventional.read_write SolverConfiguration.inverts configuration
    exact ⟨document, written, by rw [SolverConfiguration.ofDocument, read]; rfl⟩
  · obtain ⟨document, written, read⟩ :=
      servicesConventional.read_write ServiceConfiguration.inverts configuration
    exact ⟨document, written, by rw [ServiceConfiguration.ofDocument, read]; rfl⟩

end

/-- A message with lists that are missing and lists that are empty, and with the least and
the greatest numbers. -/
def raggedMessage : GameMessage :=
  { grids := some [
      {},
      { rows := some [], boxWidth := some 0xffffffff, domain := some [] },
      { rows := some [
          {},
          { cells := some [] },
          { cells := some [
              {},
              { value := some (-0x8000000000000000), height := some 0 },
              { value := some 0x7fffffffffffffff }] }] }] }

/-- The ragged message is read back from its document, and so are settings with a limit and
settings without one. -/
theorem ofDocument_toDocument_raggedMessage :
    raggedMessage.toDocument GameMessage.codec = .ok
        ("\x7b\"grids\":[\x7b\x7d,\x7b\"rows\":[],\"box_width\":4294967295,\"domain\":[]\x7d," ++
          "\x7b\"rows\":[\x7b\x7d,\x7b\"cells\":[]\x7d,\x7b\"cells\":[\x7b\x7d," ++
          "\x7b\"value\":-9223372036854775808,\"height\":0\x7d," ++
          "\x7b\"value\":9223372036854775807\x7d]\x7d]\x7d]\x7d") ∧
      (∃ document, raggedMessage.toDocument GameMessage.codec = .ok document ∧
        GameMessage.ofDocument GameMessage.codec document = .ok raggedMessage) ∧
      (∃ document, SolverConfiguration.codec.write
          { timeLimitMs := some 0, verifySolutions := false } = .ok document ∧
        SolverConfiguration.ofDocument SolverConfiguration.codec document =
          .ok { timeLimitMs := some 0, verifySolutions := false }) ∧
      ∃ document, ServiceConfiguration.codec.write { maxCells := none } = .ok document ∧
        ServiceConfiguration.ofDocument ServiceConfiguration.codec document =
          .ok { maxCells := none } := by
  obtain ⟨messages, solvers, services⟩ := ofDocument_toDocument
    (Codec.conventional_json GameMessage.toJson GameMessage.ofJson?)
    (Codec.conventional_json SolverConfiguration.toJson SolverConfiguration.ofJson?)
    (Codec.conventional_json ServiceConfiguration.toJson ServiceConfiguration.ofJson?)
  exact ⟨by decide +kernel, messages raggedMessage, solvers _, services _⟩

end Sudoku
