import ShardStream.Config
import ShardStream.Proofs.Moving

/-! # Where a configured session starts

The start position has one entry for each name in the list of shards, all at the same GTID, and
without a list one entry for the whole keyspace. The names are taken as they are listed, apart from
blanks around them and empty ones, so a name that is listed twice has two entries. A look for the
shard finds one of them, but only that one moves, and the other stays where the session started.
-/
namespace ShardStream

namespace Vgtid

variable {keyspace gtid gtid' : String} {shards : List String} {p : ShardPosition}
  {shard : String × String} {ps qs : List ShardPosition}

/-- The names of the shards in a start position. -/
def startNames (shards : List String) : List String := if shards = [] then [""] else shards

theorem entries_start (keyspace : String) (shards : List String) (gtid : String) :
    (start keyspace shards gtid).entries = (startNames shards).map (⟨keyspace, ·, gtid⟩) := by
  cases shards <;> rfl

theorem shards_start (keyspace : String) (shards : List String) (gtid : String) :
    (start keyspace shards gtid).shards = (startNames shards).map (keyspace, ·) := by
  rw [Vgtid.shards, entries_start, List.map_map]
  rfl

theorem count_startNames_le_one_iff {name : String} :
    (startNames shards).count name ≤ 1 ↔ shards.count name ≤ 1 := by
  cases shards with
  | nil => exact iff_of_true List.count_le_length (Nat.zero_le 1)
  | cons => rfl

theorem count_shards_start (keyspace : String) (shards : List String) (gtid name : String) :
    (start keyspace shards gtid).shards.count (keyspace, name) =
      (startNames shards).count name := by
  rw [shards_start]
  exact List.count_map_of_injective _ _ (Prod.mk_right_injective keyspace) name

theorem namesOnce_start_iff : (start keyspace shards gtid).NamesOnce ↔ shards.Nodup := by
  change (start keyspace shards gtid).shards.Nodup ↔ _
  rw [shards_start, List.nodup_map_iff (Prod.mk_right_injective keyspace),
    List.nodup_iff_count_le_one, List.nodup_iff_count_le_one]
  exact forall_congr' fun name => count_startNames_le_one_iff

/-- Which of several entries of a shard is found makes no difference, for they are the same. -/
theorem get?_start (hp : p ∈ (start keyspace shards gtid).entries) :
    (start keyspace shards gtid).get? p.keyspace p.shard = some p := by
  cases hget : (start keyspace shards gtid).get? p.keyspace p.shard with
  | none => exact absurd (isFor_iff.2 ⟨rfl, rfl⟩) (List.find?_eq_none.1 hget p hp)
  | some q =>
    obtain ⟨hq, -, hshard⟩ := of_get?_eq_some hget
    rw [entries_start] at hp hq
    obtain ⟨name, -, rfl⟩ := List.mem_map.1 hp
    obtain ⟨name', -, rfl⟩ := List.mem_map.1 hq
    cases hshard
    rfl

/-- All entries of a shard have moved just if there is no second one. -/
theorem Moves.all_moved_iff (h : Moves shard gtid ps qs)
    (hold : ∀ p ∈ ps, p.key = shard → p.gtid ≠ gtid) :
    (∀ q ∈ qs, q.key = shard → q.gtid = gtid) ↔ (ps.map (·.key)).count shard ≤ 1 := by
  have hcount : ∀ rest : List ShardPosition,
      (rest.map (·.key)).count shard = 0 ↔ ∀ q ∈ rest, q.key ≠ shard := by
    intro rest
    simp [List.count_eq_zero]
  cases h with
  | @first before after p hbefore hp =>
    have hsecond : ((before ++ p :: after).map (·.key)).count shard ≤ 1 ↔
        ∀ q ∈ after, q.key ≠ shard := by
      rw [List.map_append, List.count_append, (hcount before).2 hbefore, List.map_cons, hp,
        List.count_cons_self, ← hcount after]
      omega
    rw [hsecond]
    constructor
    · intro hall q hq hkey
      exact hold q (by simp [hq]) hkey (hall q (by simp [hq]) hkey)
    · intro hafter q hq hkey
      rcases List.mem_append.1 hq with hq | hq
      · exact absurd hkey (hbefore q hq)
      · rcases List.mem_cons.1 hq with rfl | hq
        · rfl
        · exact absurd hkey (hafter q hq)
  | appended habsent =>
    rw [(hcount ps).2 habsent]
    refine iff_of_true ?_ (Nat.zero_le 1)
    intro q hq hkey
    rcases List.mem_append.1 hq with hq | hq
    · exact absurd hkey (habsent q hq)
    · rw [List.mem_singleton.1 hq]

theorem all_moved_start_iff {keyspace name : String} (hne : gtid' ≠ gtid) :
    (∀ q ∈ ((start keyspace shards gtid).set keyspace name gtid').entries,
      q.key = (keyspace, name) → q.gtid = gtid') ↔ shards.count name ≤ 1 := by
  have hold : ∀ p ∈ (start keyspace shards gtid).entries, p.key = (keyspace, name) →
      p.gtid ≠ gtid' := by
    intro p hp _
    rw [entries_start] at hp
    obtain ⟨name, -, rfl⟩ := List.mem_map.1 hp
    exact hne.symm
  rw [← count_startNames_le_one_iff, ← count_shards_start keyspace shards gtid]
  exact (moves_move (keyspace, name) gtid' _).all_moved_iff hold

end Vgtid

namespace Config

variable {patterns : Patterns} {settings : String → Option String} {c : Config} {text : String}

/-- How often a name is listed between commas, with blanks around it or without. -/
def mentions (text : String) (name : List Char) : Nat :=
  ((text.toList.splitOn ',').map Text.trim).count name

theorem count_readShards {name : String} (hname : name ≠ "") :
    (readShards text).count name = mentions text name.toList := by
  have hinj : Function.Injective String.ofList := fun _ _ => String.ofList_injective
  have hread : (readShards text).count name =
      (((text.toList.splitOn ',').map Text.trim).filter (· ≠ [])).count name.toList := by
    rw [readShards, ← List.count_map_of_injective _ _ hinj, String.ofList_toList]
  rw [hread, List.count_filter (by simpa using hname)]
  rfl

theorem empty_not_mem_readShards (text : String) : "" ∉ readShards text := by
  intro h
  obtain ⟨name, hname, hempty⟩ := List.mem_map.1 h
  have hne : name ≠ [] := by simpa using (List.mem_filter.1 hname).2
  exact hne (by simpa using hempty)

/-- No name is read twice just if none is listed twice. Empty ones between commas are not read. -/
theorem nodup_readShards_iff :
    (readShards text).Nodup ↔ ∀ name ≠ [], mentions text name ≤ 1 := by
  rw [List.nodup_iff_count_le_one]
  constructor
  · intro hcount name hname
    have hle := hcount (String.ofList name)
    rw [count_readShards (by simpa using hname), String.toList_ofList] at hle
    exact hle
  · intro hmentions name
    by_cases hname : name = ""
    · rw [hname, List.count_eq_zero.2 (empty_not_mem_readShards text)]
      exact Nat.zero_le 1
    · rw [count_readShards hname]
      exact hmentions name.toList (by simpa using hname)

/-- What is accepted has passed the check, and has its names as they were set. -/
theorem of_ofSettings (h : ofSettings patterns settings = .ok c) :
    c.validate patterns = .ok () ∧
      c.keyspace = (settings "VITESS_KEYSPACE").getD standard.keyspace ∧
      c.shards = ((settings "VITESS_SHARDS").map readShards).getD standard.shards ∧
      c.gtid = (settings "VITESS_GTID").getD standard.gtid := by
  unfold ofSettings at h
  obtain ⟨pollInterval, -, h⟩ := ok_of_bind h
  obtain ⟨ordered, -, h⟩ := ok_of_bind h
  obtain ⟨threshold, -, h⟩ := ok_of_bind h
  obtain ⟨⟨⟩, hvalid, h⟩ := ok_of_bind h
  cases h
  exact ⟨hvalid, rfl, rfl, rfl⟩

theorem shards_nodup_iff (h : ofSettings patterns settings = .ok c) : c.shards.Nodup ↔
    ∀ text, settings "VITESS_SHARDS" = some text → ∀ name ≠ [], mentions text name ≤ 1 := by
  obtain ⟨-, -, hshards, -⟩ := of_ofSettings h
  rw [hshards]
  cases settings "VITESS_SHARDS" with
  | none => exact iff_of_true List.nodup_nil nofun
  | some text =>
    simp only [Option.map_some, Option.getD_some, Option.some.injEq, forall_eq']
    exact nodup_readShards_iff

/-- The start position of accepted settings is never empty, whatever patterns are accepted. It names
each shard once just if no name is listed twice. A look for the shard of an entry finds the entry,
or one that is the same; but when a shard moves, an entry of it is left behind just if its name is
listed more than once. -/
theorem start_names_shards_once_iff (patterns : Patterns) (settings : String → Option String)
    {c : Config} (h : ofSettings patterns settings = .ok c) :
    c.startPosition.isEmpty = false ∧
      (c.startPosition.NamesOnce ↔ ∀ text, settings "VITESS_SHARDS" = some text →
        ∀ name ≠ [], mentions text name ≤ 1) ∧
      (∀ p ∈ c.startPosition.entries, c.startPosition.get? p.keyspace p.shard = some p) ∧
      ∀ name gtid, gtid ≠ c.gtid →
        ((∀ q ∈ (c.startPosition.set c.keyspace name gtid).entries,
          q.key = (c.keyspace, name) → q.gtid = gtid) ↔ c.shards.count name ≤ 1) := by
  refine ⟨Vgtid.isEmpty_start c.keyspace c.shards c.gtid, ?_, fun p => Vgtid.get?_start, ?_⟩
  · rw [← shards_nodup_iff h]
    exact Vgtid.namesOnce_start_iff
  · intro name gtid hne
    exact Vgtid.all_moved_start_iff hne

end Config

namespace Sample

/-- Patterns without operators, which stand for themselves. -/
def verbatim : Patterns := fun pattern =>
  some fun text => text.toList.tails.any pattern.toList.isPrefixOf

/-- One shard is listed twice. -/
def repeatedSettings (name : String) : Option String :=
  [("VITESS_SHARDS", "-80, ,-80 "), ("VITESS_GTID", "a:1-5"),
    ("VITESS_LARGE_ROW_TABLE_PATTERN", "orders")].lookup name

def repeatedShard : Config :=
  { Config.standard with
    shards := ["-80", "-80"], gtid := "a:1-5", largeRowPattern := some "orders" }

end Sample

namespace Config

/-- A shard that is listed twice has two entries, one of which stays behind when the shard moves. A
shard that moves forward twice is then listed as one that goes back. -/
theorem repeated_shard_has_two_entries :
    let start := Sample.repeatedShard.startPosition
    let moved := start.set "commerce" "-80" "a:1-6"
    ofSettings Sample.verbatim Sample.repeatedSettings = .ok Sample.repeatedShard ∧
      start.isEmpty = false ∧ ¬ start.NamesOnce ∧
      (∃ q ∈ moved.entries, q.key = ("commerce", "-80") ∧ q.gtid ≠ "a:1-6") ∧
      Vgtid.regressions gtidRanking moved (moved.set "commerce" "-80" "a:1-7") =
        ["commerce/-80"] := by
  intro start moved
  have hsettings :
      ofSettings Sample.verbatim Sample.repeatedSettings = .ok Sample.repeatedShard := by
    decide +kernel
  obtain ⟨hsome, hnames, -, hmoved⟩ :=
    start_names_shards_once_iff Sample.verbatim Sample.repeatedSettings hsettings
  refine ⟨hsettings, hsome, ?_, ?_, by decide +kernel⟩
  · rw [hnames]
    intro hmentions
    have htwice : mentions "-80, ,-80 " ['-', '8', '0'] = 2 := by decide +kernel
    have hle := hmentions "-80, ,-80 " rfl ['-', '8', '0'] (by decide)
    omega
  · have hleft := (hmoved "-80" "a:1-6" (by decide)).not.2 (by decide)
    push Not at hleft
    exact hleft

end Config

end ShardStream
