import ShardStream.Event
import ShardStream.Proofs.Storing
import ShardStream.Proofs.Time.Reading

/-! # Messages and events are read back

Each message and each event is read back from its text as it was, unless a cell of its row holds a
double or a document: a double is written as a decimal, and a document is read in its normal form.
-/
namespace ShardStream

open Json

variable {levels : Nat}

theorem Instant.restores_format (t : Instant) : format.Restores levels t :=
  .imap? (Format.restores_text _) (Time.parse_render t)

theorem Rank.restores_format (r : Rank) : format.Restores levels r :=
  .imap? (Format.restores_text _) (parse?_text r)

theorem TransactionOrder.restores_format (o : TransactionOrder) : format.Restores (levels + 1) o :=
  Record.Restores.format (by decide) (.imap
    (.and (Record.restores_required _ (Format.restores_uint64 _))
      (Record.restores_required _ (Rank.restores_format _)))
    rfl)

theorem TransactionInfo.restores_format (i : TransactionInfo) : format.Restores (levels + 2) i :=
  Record.Restores.format (by decide) (.imap
    (.and (Record.restores_required _ (Format.restores_text _))
      (.and (Record.restores_required _ (Format.restores_text _))
        (Record.restores_optional _ (fun o _ => o.restores_format) nofun)))
    rfl)

theorem TransactionBlock.restores_format (b : TransactionBlock) : format.Restores (levels + 2) b :=
  Record.Restores.format (by decide) (.imap
    (.and (Record.restores_required _ (Format.restores_text _))
      (.and (Record.restores_required _ (Format.restores_uint64 _))
        (.and (Record.restores_required _ (Format.restores_uint64 _))
          (Record.restores_optional _ (fun o _ => o.restores_format) nofun))))
    rfl)

theorem TableId.restores_format (t : TableId) : format.Restores (levels + 1) t :=
  Record.Restores.format (by decide) (.imap
    (.and (Record.restores_optional _ (fun s _ => Format.restores_text s) nofun)
      (Record.restores_required _ (Format.restores_text _)))
    rfl)

theorem Partition.restores_format (p : Partition) : format.Restores (levels + 1) p :=
  Record.Restores.format (by decide)
    (.imap (Record.restores_required _ (Format.restores_text _)) rfl)

theorem Source.restores_format (s : Source) : format.Restores (levels + 3) s :=
  Record.Restores.format (by decide) (.imap
    (.and (Record.restores_required _ (Format.restores_text _))
      (.and (Record.restores_required _ (Format.restores_text _))
        (.and (Record.restores_optional _ (fun s _ => Format.restores_text s) nofun)
          (.and (Record.restores_required _ (Vgtid.restores_format _))
            (.and (Record.restores_required _ (Instant.restores_format _))
              (Record.restores_optional _ (fun t _ => t.restores_format) nofun))))))
    rfl)

theorem Header.restores_format (h : Header) : format.Restores (levels + 1) h :=
  Record.Restores.format (by decide) (.imap
    (.and (Record.restores_required _ (Format.restores_text _))
      (.and (Record.restores_required _ (Format.restores_text _))
        (.and (Record.restores_optional _ (fun s _ => Format.restores_text s) nofun)
          (Record.restores_required _ (Instant.restores_format _)))))
    rfl)

theorem RowOperation.restores_format (op : RowOperation) : format.Restores levels op := by
  refine Format.restores_choice ?_
  cases op <;> rfl

namespace CellValue

/-- Whether the value is neither a double nor a document. -/
def isExact : CellValue → Bool
  | double _ => false
  | json _ => false
  | _ => true

theorem restores_format {v : CellValue} (hv : v.isExact = true) :
    format.Restores (levels + 2) v := by
  cases v with
  | null => exact ⟨.str _, fun _ _ => rfl⟩
  | int64 n =>
    exact (Format.restores_int64 n).variant readTagged rfl (fun _ _ => rfl) (fun _ _ => rfl) rfl
  | uint64 n =>
    exact (Format.restores_uint64 n).variant readTagged rfl (fun _ _ => rfl) (fun _ _ => rfl) rfl
  | decimal s =>
    exact (Format.restores_text s).variant readTagged rfl (fun _ _ => rfl) (fun _ _ => rfl) rfl
  | text s =>
    exact (Format.restores_text s).variant readTagged rfl (fun _ _ => rfl) (fun _ _ => rfl) rfl
  | bytes bs =>
    exact (Format.restores_bytes bs).variant readTagged rfl (fun _ _ => rfl) (fun _ _ => rfl) rfl
  | time t =>
    exact (Instant.restores_format t).variant readTagged rfl (fun _ _ => rfl) (fun _ _ => rfl) rfl
  | double x => cases hv
  | json v => cases hv

end CellValue

namespace Column

theorem restores_format {c : Column} (hc : c.value.isExact = true) :
    format.Restores (levels + 3) c :=
  Record.Restores.format (by decide) (.imap
    (.and (Record.restores_required _ (Format.restores_text _))
      (Record.restores_required _ (CellValue.restores_format hc)))
    rfl)

theorem restores_columns {columns : Option (List Column)}
    (hcolumns : ∀ c ∈ columns.getD [], c.value.isExact = true) :
    ∀ cs ∈ columns, (Format.list format).Restores (levels + 4) cs := by
  rintro cs rfl
  exact .list fun c hc => restores_format (hcolumns c hc)

end Column

namespace RowChange

def columns (c : RowChange) : List Column := c.before.getD [] ++ c.after.getD []

theorem restores_format {c : RowChange} (hc : ∀ column ∈ c.columns, column.value.isExact = true) :
    format.Restores (levels + 5) c := by
  obtain ⟨hbefore, hafter⟩ := List.forall_mem_append.1 hc
  exact Record.Restores.format (by decide) (.imap
    (.and (Record.restores_required _ (Format.restores_text _))
      (.and (Record.restores_required _ (RowOperation.restores_format _))
        (.and (Record.restores_optional _ (Column.restores_columns hbefore) nofun)
          (Record.restores_optional _ (Column.restores_columns hafter) nofun))))
    rfl)

end RowChange

namespace Message

def columns : Message → List Column
  | row _ c => c.columns
  | _ => []

theorem restores_ddlFormat (h : Header) (statement : String) :
    ddlFormat.Restores (levels + 2) (h, statement) :=
  Record.Restores.format (by decide) (.and (Record.restores_required _ h.restores_format)
    (Record.restores_required _ (Format.restores_text _)))

theorem restores_rowFormat (h : Header) {c : RowChange}
    (hc : ∀ column ∈ c.columns, column.value.isExact = true) :
    rowFormat.Restores (levels + 6) (h, c) :=
  Record.Restores.format (by decide) (.and (Record.restores_required _ h.restores_format)
    (Record.restores_required _ (RowChange.restores_format hc)))

theorem restores_format {m : Message} (hm : ∀ c ∈ m.columns, c.value.isExact = true) :
    format.Restores (levels + 7) m := by
  cases m with
  | begin h =>
    exact h.restores_format.variant readTagged rfl (fun _ _ => rfl) (fun _ _ => rfl) rfl
  | commit h =>
    exact h.restores_format.variant readTagged rfl (fun _ _ => rfl) (fun _ _ => rfl) rfl
  | ddl h statement =>
    exact (restores_ddlFormat h statement).variant readTagged rfl (fun _ _ => rfl)
      (fun _ _ => rfl) rfl
  | other h =>
    exact h.restores_format.variant readTagged rfl (fun _ _ => rfl) (fun _ _ => rfl) rfl
  | row h c =>
    exact (restores_rowFormat h hm).variant readTagged rfl (fun _ _ => rfl) (fun _ _ => rfl) rfl

end Message

namespace ChangeRecord

def columns (r : ChangeRecord) : List Column := r.before.getD [] ++ r.after.getD []

theorem restores_format {r : ChangeRecord} (hr : ∀ c ∈ r.columns, c.value.isExact = true) :
    format.Restores (levels + 5) r := by
  obtain ⟨hbefore, hafter⟩ := List.forall_mem_append.1 hr
  exact Record.Restores.format (by decide) (.imap
    (.and (Record.restores_required _ (RowOperation.restores_format _))
      (.and (Record.restores_required _ (TableId.restores_format _))
        (.and (Record.restores_optional _ (Column.restores_columns hbefore) nofun)
          (.and (Record.restores_optional _ (Column.restores_columns hafter) nofun)
            (.and (Record.restores_required _ (Source.restores_format _))
              (.and (Record.restores_optional _ (fun b _ => b.restores_format) nofun)
                (Record.restores_required _ (Instant.restores_format _))))))))
    rfl)

end ChangeRecord

namespace Event

def columns : Event → List Column
  | changed _ _ r => r.columns
  | _ => []

theorem restores_startedRecord (p : Partition) (i : TransactionInfo) (s : Source) (time : Instant) :
    startedRecord.Restores (levels + 3) (p, i, s, time) :=
  .and (Record.restores_required _ p.restores_format)
    (.and (Record.restores_required _ i.restores_format)
      (.and (Record.restores_required _ s.restores_format)
        (Record.restores_required _ time.restores_format)))

theorem restores_committedRecord (p : Partition) (id : Option String) (rows : UInt64) (s : Source)
    (time : Instant) : committedRecord.Restores (levels + 3) (p, id, rows, s, time) :=
  .and (Record.restores_required _ p.restores_format)
    (.and (Record.restores_optional _ (fun id _ => Format.restores_text id) nofun)
      (.and (Record.restores_required _ (Format.restores_uint64 rows))
        (.and (Record.restores_required _ s.restores_format)
          (Record.restores_required _ time.restores_format))))

theorem restores_changedRecord (p : Partition) (table : TableId) {r : ChangeRecord}
    (hr : ∀ c ∈ r.columns, c.value.isExact = true) :
    changedRecord.Restores (levels + 5) (p, table, r) :=
  .and (Record.restores_required _ p.restores_format)
    (.and (Record.restores_required _ table.restores_format)
      (Record.restores_required _ (ChangeRecord.restores_format hr)))

variable {α : Type} {r : Record α} {a : α}

/-- The tag is split off from members that are not named like it. -/
theorem untag_write (tag : String) (h : r.Restores levels a) (htype : "type" ∉ r.names) :
    untag (.obj (("type", .str tag) :: r.write a)) = some (tag, .obj (r.write a)) := by
  have hothers : ∀ m ∈ r.write a, m.1 ≠ "type" := by
    intro m hm hname
    rw [← hname] at htype
    exact htype (h.named m hm)
  have hnone : (r.write a).filter (fun m => m.1 = "type") = [] :=
    List.filter_eq_nil_iff.2 fun m hm => by simpa using hothers m hm
  have hall : (r.write a).filter (fun m => m.1 ≠ "type") = r.write a :=
    List.filter_eq_self.2 fun m hm => decide_eq_true (hothers m hm)
  have hnamed : Record.named "type" (("type", .str tag) :: r.write a) = [.str tag] := by
    simp [Record.named, hnone]
  have hrest : (("type", .str tag) :: r.write a).filter (fun m => m.1 ≠ "type") = r.write a := by
    rw [List.filter_cons_of_neg (by simp), hall]
  simp only [untag, hnamed, hrest]

/-- A tagged event is read back if the record of its members is. -/
theorem restores_tagged {tag : String} {make : α → Event} {e : Event} (h : r.Restores levels a)
    (hnames : ("type" :: r.names).Nodup)
    (hwrite : write e = .obj (("type", .str tag) :: r.write a))
    (htag : ∀ s content, readTagged s content tag = (r.read s content).map make)
    (hmake : make a = e) : format.Restores (levels + 1) e := by
  have hfits : (write e).Fits (levels + 1) := by
    rw [hwrite]
    exact .obj (List.forall_mem_cons.2 ⟨.str tag, h.fits⟩)
  refine ⟨hfits, fun s hs => ?_⟩
  obtain ⟨inner, henter, hinner⟩ := s.enter_of_le hs
  obtain ⟨w, hnormal⟩ := (hfits.mono hs).normalizes
  have hdocument : Format.document.read s (write e) = some w := hnormal
  have hread : readTagged { inner with buffered := true } (.obj (r.write a)) tag = some e := by
    have hmembers : r.read { inner with buffered := true } (.obj (r.write a)) = some a :=
      h.read hnames.of_cons hinner
    rw [htag, hmembers, Option.map_some, hmake]
  simp only [format, hdocument, henter, Option.bind_eq_bind, Option.bind_some]
  rw [hwrite, untag_write tag h (List.nodup_cons.1 hnames).1]
  exact hread

theorem restores_format {e : Event} (he : ∀ c ∈ e.columns, c.value.isExact = true) :
    format.Restores (levels + 6) e := by
  cases e with
  | started p i s time =>
    exact restores_tagged (restores_startedRecord p i s time) (by decide) rfl (fun _ _ => rfl) rfl
  | committed p id rows s time =>
    exact restores_tagged (restores_committedRecord p id rows s time) (by decide) rfl
      (fun _ _ => rfl) rfl
  | changed p table r =>
    exact restores_tagged (restores_changedRecord p table he) (by decide) rfl (fun _ _ => rfl) rfl

end Event

/-- Every message and every event is read back from its text as it was, and an event with its
source, if no cell of its row holds a double or a document. -/
theorem messages_and_events_survive_writing :
    (∀ m : Message, (∀ c ∈ m.columns, c.value.isExact = true) →
      (Json.parse (Message.format.write m).render).bind Message.format.decode = some m) ∧
    ∀ e : Event, (∀ c ∈ e.columns, c.value.isExact = true) →
      let read := (Json.parse (Event.format.write e).render).bind Event.format.decode
      read = some e ∧ read.map Event.source = some e.source := by
  constructor
  · intro m hm
    have hrestores : Message.format.Restores 7 m := Message.restores_format hm
    exact hrestores.decode_parse (by decide)
  · intro e he read
    have hrestores : Event.format.Restores 6 e := Event.restores_format he
    have hread : read = some e := hrestores.decode_parse (by decide)
    exact ⟨hread, congrArg (Option.map Event.source) hread⟩

namespace Sample

/-- Half a second into the leap second at the end of the year 10000. -/
def leapSecond : Instant := ⟨253433923199, 1500000000, by decide, by decide, by decide⟩

/-- A row with values at the ends of their ranges. -/
def extremeColumns : List Column :=
  [⟨"\"\\\n", .int64 (-9223372036854775808)⟩, ⟨"", .uint64 18446744073709551615⟩,
    ⟨"키😀", .bytes [0, 255]⟩, ⟨"type", .time leapSecond⟩, ⟨"\x01", .null⟩]

def extremeRow : Message :=
  .row ⟨"commerce", "-80", none, leapSecond⟩ (.update "orders" [] extremeColumns)

def extremeEvent : Event :=
  .changed ⟨"vitess"⟩ ⟨none, "orders"⟩
    ⟨.delete, ⟨some "commerce", "orders"⟩, some extremeColumns, none,
      ⟨"vitess", "commerce", some "-80", ⟨[⟨"commerce", "-80", "a:1-5"⟩]⟩, leapSecond, none⟩,
      some ⟨"a:1-5", 1, 1, some ⟨18446744073709551615, BitVec.allOnes 128⟩⟩, leapSecond⟩

end Sample

/-- Values at the ends of their ranges are read back, and so is a leap second in a year of five
digits. -/
theorem extreme_values_survive_writing :
    Time.render Sample.leapSecond = "+10000-12-31T23:59:60.500Z" ∧
      (Json.parse (Message.format.write Sample.extremeRow).render).bind Message.format.decode =
        some Sample.extremeRow ∧
      (Json.parse (Event.format.write Sample.extremeEvent).render).bind Event.format.decode =
        some Sample.extremeEvent := by
  have hexact : ∀ c ∈ Sample.extremeColumns, c.value.isExact = true := by decide
  obtain ⟨hmessages, hevents⟩ := messages_and_events_survive_writing
  refine ⟨by decide +kernel, hmessages Sample.extremeRow ?_, (hevents Sample.extremeEvent ?_).1⟩
  · exact hexact
  · intro c hc
    rcases List.mem_append.1 hc with hc | hc
    · exact hexact c hc
    · cases hc

end ShardStream
