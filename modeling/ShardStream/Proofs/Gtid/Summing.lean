import ShardStream.Proofs.Gtid.Writing

/-! # The rank of a text

A text has a rank if it is read as a set with transactions in it. The rank is the sum, over the
hosts that the text names, of the largest number that ends one of their intervals. However many
hosts a text of less than 2^64 bytes names, the sum fits the bits of a rank, so nothing but the
hosts and their largest numbers matters for it.
-/
namespace ShardStream

namespace Gtid

/-- The hosts that the items name, each once. -/
def hostsOf (items : List Item) : Finset String := (items.map (·.1)).toFinset

/-- The numbers that end an interval of the host, in whatever item. -/
def endsOf (items : List Item) (host : String) : List Nat :=
  (items.filter (·.1 = host)).flatMap fun item => item.2.map (·.last.toNat)

def largestEnd (items : List Item) (host : String) : Nat := (endsOf items host).foldr max 0

variable {items : List Item} {host : String} {bound : Nat}

theorem mem_hostsOf : host ∈ hostsOf items ↔ ∃ item ∈ items, item.1 = host := by
  rw [hostsOf, List.mem_toFinset, List.mem_map]

theorem mem_endsOf : bound ∈ endsOf items host ↔
    ∃ item ∈ items, item.1 = host ∧ ∃ r ∈ item.2, r.last.toNat = bound := by
  simp only [endsOf, List.mem_flatMap, List.mem_filter, decide_eq_true_eq, List.mem_map, and_assoc]

theorem largestEnd_le_iff :
    largestEnd items host ≤ bound ↔ ∀ last ∈ endsOf items host, last ≤ bound :=
  ⟨fun h _ hlast => Nat.le_trans (List.le_max_of_le hlast (Nat.le_refl _)) h,
    List.max_le_of_forall_le _ _⟩

end Gtid

namespace GtidSet

open Gtid

variable {s : GtidSet} {text : String} {flavor : Option String} {items : List Item} {host : String}

theorem IsProper.greatestAt_le_iff (hs : s.IsProper) {bound : Nat} :
    s.greatestAt host ≤ bound ↔ ∀ n, s.contains host n = true → n.toNat ≤ bound := by
  constructor
  · intro h n hn
    exact Nat.le_trans (le_greatestAt hn) h
  · intro h
    rcases Nat.eq_zero_or_pos (s.greatestAt host) with hzero | hpos
    · rw [hzero]
      exact Nat.zero_le _
    · obtain ⟨n, hn, heq⟩ := hs.contains_greatestAt hpos
      rw [← heq]
      exact h n hn

/-- Merging loses no end that is the largest of its host. -/
theorem greatestAt_ofItems (flavor : Option String)
    (hitems : ∀ item ∈ items, ∀ r ∈ item.2, r.IsProper) (host : String) :
    (ofItems flavor items).greatestAt host = largestEnd items host := by
  have hproper : (ofItems flavor items).IsProper := (isProper_empty flavor).addItems hitems
  refine eq_of_forall_ge_iff fun bound => ?_
  rw [hproper.greatestAt_le_iff, largestEnd_le_iff]
  simp only [contains_ofItems flavor hitems, mem_endsOf]
  constructor
  · rintro h _ ⟨item, hitem, hname, r, hr, rfl⟩
    exact h r.last ⟨item, hitem, hname, r, hr, hitems item hitem r hr, UInt64.le_refl _⟩
  · rintro h n ⟨item, hitem, hname, r, hr, -, hlast⟩
    exact Nat.le_trans (UInt64.le_iff_toNat_le.1 hlast) (h _ ⟨item, hitem, hname, r, hr, rfl⟩)

theorem sum_maxima_ofItems (h : IsText text flavor items) :
    ((ofItems flavor items).maxima.map UInt64.toNat).sum =
      ∑ host ∈ hostsOf items, largestEnd items host := by
  rw [sum_greatestAt (fun host hhost => mem_hostsOf.2 ((mem_keys_ofItems h).1 hhost))]
  exact Finset.sum_congr rfl fun host _ => greatestAt_ofItems flavor h.isProper host

theorem isEmpty_ofItems (h : IsText text flavor items) :
    (ofItems flavor items).isEmpty = true ↔ items = [] := by
  constructor
  · intro hempty
    by_contra hne
    obtain ⟨item, hitem⟩ := List.exists_mem_of_ne_nil _ hne
    obtain ⟨k, hk⟩ := KeyMap.mem_keys_iff.1 ((mem_keys_ofItems h).2 ⟨item, hitem, rfl⟩)
    obtain ⟨-, -, hsome⟩ := h.isCanonical item.1 k hk
    have hmem : k ∈ (ofItems flavor items).hosts.values :=
      List.mem_map.2 ⟨_, KeyMap.get?_eq_some_iff.1 hk, rfl⟩
    exact hsome (by simpa using List.all_eq_true.1 hempty k hmem)
  · rintro rfl
    rfl

/-- Only an empty text and the word for nothing list no items. -/
theorem items_eq_nil_iff (h : IsText text flavor items) : items = [] ↔
    Text.trim text.toList = [] ∨ Text.trim text.toList = "NULL".toList := by
  have hcolon : ∀ {body}, IsBody body items → ':' ∈ Text.trim text.toList →
      (items = [] ↔ Text.trim text.toList = [] ∨ Text.trim text.toList = "NULL".toList) := by
    intro body hbody hmem
    have hnothing := isNothing_of_colon hmem
    simp only [isNothing, Bool.or_eq_false_iff, decide_eq_false_iff_not] at hnothing
    exact iff_of_false hbody.ne_nil (not_or.2 hnothing)
  cases h with
  | nothing htext => simp [htext.trim_eq]
  | null htext => simp [htext.trim_eq]
  | plain htext _ hbody =>
    refine hcolon hbody ?_
    rw [htext.trim_eq]
    exact hbody.mem_colon
  | flavored htext _ _ hbody =>
    refine hcolon hbody ?_
    rw [htext.trim_eq]
    exact List.mem_append_right _ (List.mem_cons_of_mem _ hbody.mem_colon)

end GtidSet

section Ranking

open Gtid

variable {text other : String} {flavor flavor' : Option String} {items items' : List Item}

theorem gtidRanking_of_isText (h : IsText text flavor items) (hne : items ≠ [])
    (hsize : text.utf8ByteSize < 2 ^ 64) : ∃ r, gtidRanking text = .ok r ∧
      r.toNat = ∑ host ∈ hostsOf items, largestEnd items host := by
  have hread : GtidSet.parse text = .ok (ofItems flavor items) :=
    GtidSet.parse_ok_iff.2 ⟨flavor, items, h, rfl⟩
  have hsome : (ofItems flavor items).isEmpty = false :=
    Bool.eq_false_iff.2 (mt (GtidSet.isEmpty_ofItems h).1 hne)
  refine ⟨_, gtidRanking_of_parse hread hsome, ?_⟩
  rw [Rank.toNat_ofSet (Rank.sum_maxima_lt (size_hosts_le hread hsize)),
    GtidSet.sum_maxima_ofItems h]

/-- A text has no rank just if it cannot be read, is empty or is the word for nothing, and then it
is no identifier. -/
theorem gtidRanking_error_iff (text : String) : (∃ f, gtidRanking text = .error f) ↔
    (∃ f, GtidSet.parse text = .error f) ∨ Text.trim text.toList = [] ∨
      Text.trim text.toList = "NULL".toList := by
  constructor
  · rintro ⟨f, hf⟩
    cases hread : GtidSet.parse text with
    | error g => exact .inl ⟨g, rfl⟩
    | ok s =>
      obtain ⟨flavor, items, htext, rfl⟩ := GtidSet.parse_ok_iff.1 hread
      refine .inr ((GtidSet.items_eq_nil_iff htext).1 ?_)
      rw [← GtidSet.isEmpty_ofItems htext]
      by_contra hsome
      rw [gtidRanking_of_parse hread (Bool.eq_false_iff.2 hsome)] at hf
      cases hf
  · rintro (⟨f, hf⟩ | hnothing)
    · exact ⟨f, by rw [gtidRanking, hf]; rfl⟩
    · have hread : GtidSet.parse text = .ok .empty := by
        rcases hnothing with hnothing | hnothing <;> rw [GtidSet.parse, hnothing] <;> rfl
      exact ⟨.emptyIdentifier text, by rw [gtidRanking, hread]; rfl⟩

theorem faultsAs_gtidRanking (text : String) : FaultsAs .identifier (gtidRanking text) := by
  refine (GtidSet.faultsAs_parse text).bind fun s => ?_
  split
  · exact faultsAs_error (.emptyIdentifier text)
  · exact faultsAs_ok _

/-- The rank of a text is the sum, over the hosts that it names, of the largest end of an interval
written for the host. A text has none just if it cannot be read, is empty or is the word for
nothing, and it is then an invalid identifier. No partial sum passes the bits of a rank, and texts
with the same hosts and the same largest ends have the same rank. The texts fit a memory of 64-bit
addresses. -/
theorem rank_is_sum_of_largest_ends (hsize : text.utf8ByteSize < 2 ^ 64) :
    (∀ r, gtidRanking text = .ok r ↔ ∃ flavor items, IsText text flavor items ∧ items ≠ [] ∧
        r.toNat = ∑ host ∈ hostsOf items, largestEnd items host) ∧
      ((∃ f, gtidRanking text = .error f) ↔ (∃ f, GtidSet.parse text = .error f) ∨
        Text.trim text.toList = [] ∨ Text.trim text.toList = "NULL".toList) ∧
      (∀ f, gtidRanking text = .error f → f.kind = .identifier) ∧
      (∀ s, GtidSet.parse text = .ok s → ∀ part, part <+: s.maxima →
        (part.map UInt64.toNat).sum < 2 ^ 128) ∧
      ∀ other flavor flavor' items items', other.utf8ByteSize < 2 ^ 64 →
        IsText text flavor items → IsText other flavor' items' → items ≠ [] →
        hostsOf items = hostsOf items' →
        (∀ host ∈ hostsOf items, largestEnd items host = largestEnd items' host) →
        gtidRanking text = gtidRanking other := by
  refine ⟨fun r => ⟨fun hr => ?_, ?_⟩, gtidRanking_error_iff text, faultsAs_gtidRanking text,
    ?_, ?_⟩
  · obtain ⟨s, hread, hsome, -⟩ := parse_of_gtidRanking hr
    obtain ⟨flavor, items, htext, rfl⟩ := GtidSet.parse_ok_iff.1 hread
    have hne : items ≠ [] := mt (GtidSet.isEmpty_ofItems htext).2 (by simp [hsome])
    obtain ⟨r', hr', hsum⟩ := gtidRanking_of_isText htext hne hsize
    obtain rfl : r = r' := Except.ok.inj (hr.symm.trans hr')
    exact ⟨flavor, items, htext, hne, hsum⟩
  · rintro ⟨flavor, items, htext, hne, hsum⟩
    obtain ⟨r', hr', hsum'⟩ := gtidRanking_of_isText htext hne hsize
    rw [hr', BitVec.eq_of_toNat_eq (hsum.trans hsum'.symm)]
  · rintro s hread part ⟨rest, hrest⟩
    have hlt := Rank.sum_maxima_lt (size_hosts_le hread hsize)
    rw [← hrest, List.map_append, List.sum_append] at hlt
    exact Nat.lt_of_le_of_lt (Nat.le_add_right _ _) hlt
  · intro other flavor flavor' items items' hsize' htext htext' hne hhosts hends
    have hne' : items' ≠ [] := by
      rintro rfl
      obtain ⟨item, hitem⟩ := List.exists_mem_of_ne_nil _ hne
      have hmem : item.1 ∈ hostsOf items := mem_hostsOf.2 ⟨item, hitem, rfl⟩
      rw [hhosts] at hmem
      cases hmem
    obtain ⟨r, hr, hsum⟩ := gtidRanking_of_isText htext hne hsize
    obtain ⟨r', hr', hsum'⟩ := gtidRanking_of_isText htext' hne' hsize'
    rw [Finset.sum_congr hhosts (hhosts ▸ hends), ← hsum'] at hsum
    rw [hr, hr', BitVec.eq_of_toNat_eq hsum]

namespace Sample

/-- Other transactions than in the sample with blanks, and no flavor, but the same hosts with the
same largest numbers. -/
def sparse : String := "b:3,a:7"

def sparseItems : List Item := [("b", [⟨3, 3⟩]), ("a", [⟨7, 7⟩])]

theorem isText_sparse : IsText sparse none sparseItems := by
  have hbody : IsBody sparse.toList sparseItems :=
    mapM_parseItem_ok_iff.1 (show List.mapM (parseItem sparse) _ = _ by decide +kernel)
  exact .plain (Text.trim_eq_iff.1 (by decide +kernel)) (by decide +kernel) hbody

end Sample

theorem rank_of_spaced_text : GtidSet.Sample.spaced.utf8ByteSize < 2 ^ 64 ∧
    gtidRanking GtidSet.Sample.spaced = .ok 10 ∧
    gtidRanking GtidSet.Sample.spaced = gtidRanking Sample.sparse := by
  have hsize : GtidSet.Sample.spaced.utf8ByteSize < 2 ^ 64 := by decide +kernel
  obtain ⟨hrank, -, -, -, hsame⟩ := rank_is_sum_of_largest_ends hsize
  refine ⟨hsize, ?_, ?_⟩
  · exact (hrank 10).2 ⟨_, _, GtidSet.Sample.isText_spaced, by decide, by decide +kernel⟩
  · exact hsame _ _ _ _ _ (by decide +kernel) GtidSet.Sample.isText_spaced Sample.isText_sparse
      (by decide) (by decide +kernel) (by decide +kernel)

end Ranking

end ShardStream
