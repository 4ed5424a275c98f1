import Mathlib.Data.List.Induction
import MediaNegotiation.Proofs.Negotiation.Composition
import MediaNegotiation.Proofs.Negotiation.Grounding

/-!
# What a section commits

The codecs of a section are matched one after the other, each behind the matches of those before it,
and only at the end is it decided which tier is committed. What becomes of the committed entries
then depends on their payload types alone: an entry is appended if its payload type is still free
when its turn comes. Otherwise it is left out, and if the codec that holds the payload type does not
count as the same, that is a conflict.

The entries, the codecs they add and their conflicts are given here in closed form, by the positions
of the codecs in the section and in the list of entries.

Results:
* `entries_matchCodecs`: the matches of a section are those of its positions.
* `commit_eq`: what committing entries adds, and how many conflicts it meets.
* `update_concat`: what one more section adds to the codecs of its kind and to the report.
-/

namespace MediaNegotiation

/-! ## Entries by position -/

/-- The entry and the tier of the codec at a position of a section, which depend on the matches of
the codecs before it. -/
def matchAt (registered offered : List Codec) (i : Nat) : Option (Codec × Tier) :=
  let before := (matchCodecs registered {} (offered.take i)).found
  offered[i]?.bind fun remote => (matchCodec registered before remote).result.toOption.join

/-- The entries of a tier, in the order of the section. -/
def entriesOf (registered offered : List Codec) (tier : Tier) : List Codec :=
  (List.range offered.length).filterMap fun i =>
    (matchAt registered offered i).bind fun m => if m.2 = tier then some m.1 else none

/-- The entries that a section commits: those of the exact matches if there are any, and otherwise
those of the loose ones. -/
def committed (registered offered : List Codec) : List Codec :=
  if entriesOf registered offered .exact ≠ [] then entriesOf registered offered .exact
  else entriesOf registered offered .loose

/-- The matches of a tier. -/
def Found.ofTier (found : Found) : Tier → List Match
  | .exact => found.exact
  | .loose => found.loose

theorem Found.ofTier_add (found : Found) (m : Match) (own tier : Tier) :
    (found.add m own).ofTier tier =
      if own = tier then found.ofTier tier ++ [m] else found.ofTier tier := by
  cases own <;> cases tier <;> rfl

section

variable {registered : List Codec}

/-- The last codec of a section is matched behind the matches of the others. -/
theorem found_matchCodecs_concat {found : Found} {front : List Codec} (remote : Codec)
    (h : (matchCodecs registered found front).fault = none) :
    (matchCodecs registered found (front ++ [remote])).found =
      match (matchCodec registered (matchCodecs registered found front).found
          remote).result.toOption.join with
      | some m => (matchCodecs registered found front).found.add ⟨remote.payloadType, m.1⟩ m.2
      | none => (matchCodecs registered found front).found := by
  induction front generalizing found with
  | nil =>
    rw [List.nil_append, matchCodecs]
    cases hm : (matchCodec registered found remote).result with
    | error fault => simp [matchCodecs, hm, Except.toOption]
    | ok m => cases m <;> simp [matchCodecs, hm, Except.toOption]
  | cons first rest ih =>
    rw [List.cons_append, matchCodecs, matchCodecs]
    cases hm : (matchCodec registered found first).result with
    | error fault => simp [matchCodecs, hm] at h
    | ok m =>
      cases m with
      | none => exact ih (by simpa [matchCodecs, hm] using h)
      | some m => exact ih (by simpa [matchCodecs, hm] using h)

/-- A section that can be read can be read up to any of its codecs. -/
theorem matchCodecs_fault_of_append {found : Found} {front back : List Codec}
    (h : (matchCodecs registered found (front ++ back)).fault = none) :
    (matchCodecs registered found front).fault = none := by
  rw [← Option.not_isSome_iff_eq_none, matchCodecs_fault_isSome_iff] at h ⊢
  rintro ⟨c, hc, hfault⟩
  exact h ⟨c, List.mem_append_left _ hc, hfault⟩

theorem matchAt_append {front : List Codec} (back : List Codec) {i : Nat} (hi : i < front.length) :
    matchAt registered (front ++ back) i = matchAt registered front i := by
  rw [matchAt, matchAt, List.take_append_of_le_length (Nat.le_of_lt hi),
    List.getElem?_append_left hi]

theorem matchAt_length (front : List Codec) (remote : Codec) :
    matchAt registered (front ++ [remote]) front.length =
      (matchCodec registered (matchCodecs registered {} front).found
        remote).result.toOption.join := by
  simp [matchAt]

theorem entriesOf_concat (front : List Codec) (remote : Codec) (tier : Tier) :
    entriesOf registered (front ++ [remote]) tier =
      entriesOf registered front tier ++
        (match (matchCodec registered (matchCodecs registered {} front).found
            remote).result.toOption.join with
          | some m => if m.2 = tier then [m.1] else []
          | none => []) := by
  have hfront : ∀ i ∈ List.range front.length,
      matchAt registered (front ++ [remote]) i = matchAt registered front i :=
    fun i hi => matchAt_append [remote] (List.mem_range.1 hi)
  rw [entriesOf, List.length_append, List.length_singleton, List.range_succ, List.filterMap_append,
    List.filterMap_congr fun i hi => by rw [hfront i hi], ← entriesOf, List.filterMap_cons,
    List.filterMap_nil, matchAt_length]
  cases (matchCodec registered (matchCodecs registered {} front).found
    remote).result.toOption.join with
  | none => rfl
  | some m => by_cases ht : m.2 = tier <;> simp [ht]

/-- The matches of a section that can be read are those of its positions. -/
theorem entries_matchCodecs {offered : List Codec}
    (h : (matchCodecs registered {} offered).fault = none) (tier : Tier) :
    ((matchCodecs registered {} offered).found.ofTier tier).map (·.entry) =
      entriesOf registered offered tier := by
  induction offered using List.reverseRecOn with
  | nil => cases tier <;> rfl
  | append_singleton front remote ih =>
    have hread : (matchCodecs registered {} front).fault = none := matchCodecs_fault_of_append h
    rw [found_matchCodecs_concat remote hread, entriesOf_concat, ← ih hread]
    cases (matchCodec registered (matchCodecs registered {} front).found
      remote).result.toOption.join with
    | none => simp
    | some m =>
      dsimp only
      rw [Found.ofTier_add]
      by_cases ht : m.2 = tier <;> simp [ht]

/-- The best matches of a section are the entries it commits. -/
theorem entries_of_best {offered : List Codec} {tier : Tier} {chosen : List Match}
    (h : (matchCodecs registered {} offered).fault = none)
    (hbest : (matchCodecs registered {} offered).found.best? = some (tier, chosen)) :
    chosen.map (·.entry) = committed registered offered := by
  rw [committed, ← entries_matchCodecs h .exact, ← entries_matchCodecs h .loose]
  unfold Found.best? at hbest
  split at hbest
  · rename_i hexact
    obtain ⟨-, rfl⟩ : Tier.exact = tier ∧ _ = chosen := by simpa using hbest
    exact (if_pos (by simpa [Found.ofTier] using hexact)).symm
  · rename_i hexact
    split at hbest
    · obtain ⟨-, rfl⟩ : Tier.loose = tier ∧ _ = chosen := by simpa using hbest
      exact (if_neg (by simpa [Found.ofTier] using hexact)).symm
    · simp at hbest

/-- A section without a match commits nothing. -/
theorem committed_of_unmatched {offered : List Codec}
    (h : (matchCodecs registered {} offered).fault = none)
    (hbest : (matchCodecs registered {} offered).found.best? = none) :
    committed registered offered = [] := by
  obtain ⟨hexact, hloose⟩ : (matchCodecs registered {} offered).found.exact = [] ∧
      (matchCodecs registered {} offered).found.loose = [] := by
    unfold Found.best? at hbest
    grind
  rw [committed, ← entries_matchCodecs h .exact, ← entries_matchCodecs h .loose]
  simp [Found.ofTier, hexact, hloose]

end

/-! ## Committing entries -/

/-- Of some entries the first one for each payload type that is not held. -/
def firstFree (held entries : List Codec) : List Codec :=
  (entries.filter fun c => (Codec.find? held c.payloadType).isNone).eraseDupsBy
    fun c d => c.payloadType == d.payloadType

/-- Whether the payload type of a codec is held by a codec that does not count as the same. -/
def Codec.clashesWith (c : Codec) (held : List Codec) : Bool :=
  held.any fun d => d.payloadType == c.payloadType && !d.sameCodec c

/-- The number of entries that clash with what is held when their turn comes. -/
def clashes (held entries : List Codec) : Nat :=
  (List.range entries.length).countP fun i =>
    entries[i]?.any fun c => c.clashesWith (held ++ firstFree held (entries.take i))

section

variable {held : List Codec} {c : Codec}

theorem firstFree_cons_held (h : (Codec.find? held c.payloadType).isSome) (rest : List Codec) :
    firstFree held (c :: rest) = firstFree held rest := by
  rw [firstFree, List.filter_cons_of_neg (by simpa [Option.isSome_iff_ne_none] using h), firstFree]

theorem firstFree_cons_free (h : Codec.find? held c.payloadType = none) (rest : List Codec) :
    firstFree held (c :: rest) = c :: firstFree (held ++ [c]) rest := by
  have hfree : ∀ d : Codec, (Codec.find? (held ++ [c]) d.payloadType).isNone =
      (!d.payloadType == c.payloadType && (Codec.find? held d.payloadType).isNone) := by
    intro d
    unfold Codec.find?
    by_cases hd : c.payloadType = d.payloadType
    · simp [hd]
    · have hne : d.payloadType ≠ c.payloadType := fun heq => hd heq.symm
      simp [List.find?_append, hd, hne]
  rw [firstFree, List.filter_cons_of_pos (by simp [h]), List.eraseDupsBy_cons, List.filter_filter,
    firstFree]
  simp only [hfree, Bool.decide_eq_false]

/-- The payload types that are held afterwards are those held before and those of the entries. -/
theorem mem_payloadTypes_firstFree {entries : List Codec} {t : UInt8} :
    t ∈ (held ++ firstFree held entries).map (·.payloadType) ↔
      t ∈ held.map (·.payloadType) ∨ t ∈ entries.map (·.payloadType) := by
  induction entries generalizing held with
  | nil => simp [firstFree]
  | cons c rest ih =>
    rw [List.map_cons, List.mem_cons]
    cases hfind : Codec.find? held c.payloadType with
    | none =>
      rw [firstFree_cons_free hfind, List.append_cons, ih]
      simp [or_assoc]
    | some d =>
      have hheld : c.payloadType ∈ held.map (·.payloadType) :=
        List.mem_map.2 ⟨d, List.mem_of_find?_eq_some hfind, by simpa using List.find?_some hfind⟩
      rw [firstFree_cons_held (by simp [hfind]), ih]
      constructor
      · rintro (ht | ht)
        · exact .inl ht
        · exact .inr (.inr ht)
      · rintro (ht | rfl | ht)
        · exact .inl ht
        · exact .inl hheld
        · exact .inr ht

/-- A codec that finds its payload type held clashes if the holder does not count as the same. -/
theorem Codec.clashesWith_of_find {d : Codec} (hd : (held.map (·.payloadType)).Nodup)
    (h : Codec.find? held c.payloadType = some d) : c.clashesWith held = !d.sameCodec c := by
  have hmem : d ∈ held := List.mem_of_find?_eq_some h
  have htype : d.payloadType = c.payloadType := by simpa using List.find?_some h
  have hholder : held.filter (fun x => x.payloadType == c.payloadType) = [d] :=
    htype ▸ filter_of_nodup_keys hd hmem
  rw [Codec.clashesWith, ← List.any_filter, hholder]
  simp

theorem Codec.clashesWith_of_free (h : Codec.find? held c.payloadType = none) :
    c.clashesWith held = false := by
  have hfree : ∀ x ∈ held, x.payloadType ≠ c.payloadType := by
    simpa [Codec.find?] using h
  simp only [Codec.clashesWith, List.any_eq_false, Bool.and_eq_true, beq_iff_eq]
  exact fun x hx hboth => hfree x hx hboth.1

/-- The first entry meets what is held, and the others meet what it leaves behind. -/
theorem clashes_cons (next rest : List Codec)
    (hnext : ∀ entries, held ++ firstFree held (c :: entries) = next ++ firstFree next entries) :
    clashes held (c :: rest) = (if c.clashesWith held then 1 else 0) + clashes next rest := by
  rw [clashes, List.length_cons, List.range_succ_eq_map, List.countP_cons, List.countP_map,
    Nat.add_comm]
  congr 1
  · simp [firstFree]
  · simp [clashes, Function.comp_def, hnext]

end

/-- Committing entries appends the first one for each payload type that is not held, and meets a
conflict for each one that clashes when its turn comes. -/
theorem commit_eq {held : List Codec} (hd : (held.map (·.payloadType)).Nodup)
    (chosen : List Match) :
    commit held chosen =
      (held ++ firstFree held (chosen.map (·.entry)),
        List.replicate (clashes held (chosen.map (·.entry))) .codecConflict) := by
  induction chosen generalizing held with
  | nil => simp [commit, firstFree, clashes]
  | cons m rest ih =>
    rw [List.map_cons]
    cases hfind : Codec.find? held m.entry.payloadType with
    | none =>
      rw [commit_cons_free hfind, ih (nodup_append_of_free hd hfind), firstFree_cons_free hfind,
        clashes_cons (held ++ [m.entry]) _ fun entries => by
          rw [firstFree_cons_free hfind, List.append_cons],
        Codec.clashesWith_of_free hfind]
      simp
    | some holder =>
      have hsome : (Codec.find? held m.entry.payloadType).isSome := by simp [hfind]
      rw [firstFree_cons_held hsome,
        clashes_cons held _ fun entries => by rw [firstFree_cons_held hsome],
        Codec.clashesWith_of_find hd hfind]
      cases hsame : holder.sameCodec m.entry with
      | true =>
        rw [commit_cons_same hfind hsame, ih hd]
        simp
      | false =>
        rw [commit_cons_conflict hfind hsame, ih hd]
        simp [Nat.add_comm 1, List.replicate_succ]

/-- A payload type of its own is not held. -/
theorem find?_eq_none_of_distinct {held rest : List Codec} {c : Codec}
    (hd : ((held ++ c :: rest).map (·.payloadType)).Nodup) :
    Codec.find? held c.payloadType = none := by
  rw [List.map_append, List.map_cons, List.nodup_append] at hd
  unfold Codec.find?
  rw [List.find?_eq_none]
  intro d hd' htype
  exact hd.2.2 _ (List.mem_map_of_mem hd') _ List.mem_cons_self (by simpa using htype)

/-- Entries with payload types of their own are all appended and meet no conflict. -/
theorem firstFree_of_distinct {held entries : List Codec}
    (hd : ((held ++ entries).map (·.payloadType)).Nodup) :
    firstFree held entries = entries ∧ clashes held entries = 0 := by
  induction entries generalizing held with
  | nil => exact ⟨rfl, rfl⟩
  | cons c rest ih =>
    have hfree := find?_eq_none_of_distinct hd
    rw [List.append_cons] at hd
    obtain ⟨hrest, hnone⟩ := ih hd
    constructor
    · rw [firstFree_cons_free hfree, hrest]
    · rw [clashes_cons (held ++ [c]) rest fun entries => by
        rw [firstFree_cons_free hfree, List.append_cons], Codec.clashesWith_of_free hfree, hnone]
      rfl

/-! ## Sections -/

section

variable {e : Engine} {s : Negotiated} {kind : MediaKind} {r : RemoteSection}

theorem codecs_takeCodecs (hs : s.hasKind kind = true)
    (hd : ((s.codecsOf kind).map (·.payloadType)).Nodup) (hr : ¬ r.Malformed) :
    (takeCodecs e kind s r).negotiated.codecs.get kind =
        some (s.codecsOf kind ++
          firstFree (s.codecsOf kind) (committed (e.registered.get kind) r.codecs)) ∧
      (takeCodecs e kind s r).conflicts =
        List.replicate (clashes (s.codecsOf kind) (committed (e.registered.get kind) r.codecs))
          .codecConflict := by
  have hread : (matchCodecs (e.registered.get kind) {} r.codecs).fault = none :=
    matchCodecs_fault_of_wellFormed hr
  cases hbest : (matchCodecs (e.registered.get kind) {} r.codecs).found.best? with
  | none =>
    rw [takeCodecs_unmatched hbest, takeCodecs_unmatched_conflicts hbest,
      committed_of_unmatched hread hbest, s.get_of_hasKind kind hs]
    simp [firstFree, clashes]
  | some best =>
    rw [takeCodecs_matched hr hbest, takeCodecs_matched_conflicts hr hbest, codecs_bindOffered,
      Negotiated.get_withCodecs_same, commit_eq hd, entries_of_best hread hbest]
    exact ⟨rfl, rfl⟩

/-- A section whose codecs are looked at and can be read appends the first of its entries for each
payload type that is not held, and meets a conflict for each of them that clashes. -/
theorem codecs_applySection (hkind : MediaKind.ofText? r.media = some kind)
    (hlooked : s.hasKind kind = true → e.multi = true)
    (hd : ((s.codecsOf kind).map (·.payloadType)).Nodup) (hr : ¬ r.Malformed) :
    (applySection e s r).negotiated.codecs.get kind =
        some (s.codecsOf kind ++
          firstFree (s.codecsOf kind) (committed (e.registered.get kind) r.codecs)) ∧
      (applySection e s r).conflicts =
        List.replicate (clashes (s.codecsOf kind) (committed (e.registered.get kind) r.codecs))
          .codecConflict := by
  cases hk : s.hasKind kind with
  | false =>
    have hopened : (s.withCodecs kind []).codecsOf kind = s.codecsOf kind := by
      rw [s.codecsOf_of_fresh kind hk, Negotiated.codecsOf_withCodecs, if_pos rfl]
    rw [applySection_fresh hkind hk, ← hopened]
    exact codecs_takeCodecs (by simp) (hopened ▸ hd) hr
  | true =>
    have hbound : (bindOffered e.extensions kind s r.extensions).1.codecsOf kind =
        s.codecsOf kind := codecsOf_bindOffered _ _ _ _ _
    rw [applySection_again hkind hk (hlooked hk), ← hbound]
    exact codecs_takeCodecs (by simpa using hk) (hbound ▸ hd) hr

end

/-! ## Updates -/

/-- **What a section commits.** Take a reachable engine and a description that ends with a section
whose kind has not been negotiated by then or may be negotiated again, and suppose that the
description can be read. The section commits the entries of its exact matches if there are any, and
otherwise those of its loose ones. The codecs of the kind are those held before the section, and
behind them, in the order of the section, the first committed entry for each payload type that was
not held. The section adds one conflict to the report for each committed entry that finds its
payload type held, when its turn comes, by a codec that does not count as the same. -/
theorem update_concat {e : Engine} (he : e.Reachable) (before : RemoteDescription)
    (r : RemoteSection) {kind : MediaKind} (hkind : MediaKind.ofText? r.media = some kind)
    (hlooked : (e.update before).1.negotiated.hasKind kind = true → e.multi = true)
    (hread : ∀ fault, (e.update (before ++ [r])).2 ≠ .error (.numeral fault)) :
    let held := (e.update before).1.negotiated.codecsOf kind
    let entries := committed (e.registered.get kind) r.codecs
    let conflicts := (e.negotiate before).conflicts ++
      List.replicate (clashes held entries) .codecConflict
    (e.update (before ++ [r])).1.negotiated.codecs.get kind =
        some (held ++ firstFree held entries) ∧
      (e.negotiate (before ++ [r])).conflicts = conflicts ∧
      (e.update (before ++ [r])).2 = joinErrors conflicts := by
  intro held entries conflicts
  have hwhole : (applySections e e.negotiated (before ++ [r])).fault = none :=
    update_ne_numeral_iff.1 hread
  obtain ⟨hbefore, hlast, -⟩ := applySections_at hwhole
  have hr : ¬ r.Malformed := fun hmalformed => by
    have hstops := applySection_fault_isSome_iff.2 ⟨hmalformed, kind, hkind, hlooked⟩
    rw [show (applySection e (e.update before).1.negotiated r).fault = none from hlast] at hstops
    simp at hstops
  have hground : (e.update before).1.Grounded :=
    kept_grounded.update before (kept_grounded.reachable grounded_new he)
  obtain ⟨hcodecs, hconflicts⟩ :=
    codecs_applySection hkind hlooked (hground.negotiated kind) hr
  have hsections : e.negotiate (before ++ [r]) = (e.negotiate before).andThen
      ((applySection e (e.update before).1.negotiated r).andThen
        { negotiated := (applySection e (e.update before).1.negotiated r).negotiated }) := by
    rw [Engine.negotiate, applySections_append_read hbefore, applySections_cons hlast]
    rfl
  have hreport : (e.negotiate (before ++ [r])).conflicts = conflicts := by
    rw [hsections, Outcome.andThen_conflicts, Outcome.andThen_conflicts, hconflicts]
    simp [conflicts, held, entries]
  refine ⟨?_, hreport, ?_⟩
  · show (e.negotiate (before ++ [r])).negotiated.codecs.get kind = _
    rw [hsections]
    exact hcodecs
  · rw [update_eq_joinErrors hwhole]
    exact congrArg joinErrors hreport

namespace Takeover

/-- A codec at a clock rate, under a payload type. -/
def codec (mime : String) (clockRate : UInt32) (payloadType : UInt8) (statsId : StatsId) : Codec :=
  ⟨mime, clockRate, 0, "", [], payloadType, statsId⟩

/-- A video section with codecs at their clock rates. -/
def video (codecs : List (String × UInt32)) : RemoteSection :=
  { media := "video"
    codecs := codecs.map fun (mime, clockRate) => codec mime clockRate 35 (.given "") }

/-- An engine that lets later sections add codecs. The first of its codecs leaves the clock rate
open, and has been taken over at one. -/
def engine : Engine := (Bench.run {} [
  .setMulti true,
  .registerCodec .video (codec Mime.vp8 0 96 (.given "")),
  .registerCodec .video (codec Mime.vp9 90000 98 (.given "")),
  .update [video [(Mime.vp8, 90000)]]]).engine

/-- A section with a conflict. -/
def first : RemoteSection := video [(Mime.vp8, 48000)]

/-- A section with a conflict, a codec that is new and the same codec once more. -/
def last : RemoteSection := video [(Mime.vp8, 8000), (Mime.vp9, 0), (Mime.vp9, 90000)]

end Takeover

/-- Behind a section with a conflict, one that meets a conflict itself and adds a codec once. -/
theorem update_concat_last :
    (∀ fault, (Takeover.engine.update ([Takeover.first] ++ [Takeover.last])).2 ≠
        .error (.numeral fault)) ∧
      (Takeover.engine.update ([Takeover.first] ++ [Takeover.last])).1.negotiated.codecs.get
          .video = some [Takeover.codec Mime.vp8 90000 96 (.issued 0),
            Takeover.codec Mime.vp9 0 98 (.issued 1)] ∧
      (Takeover.engine.update ([Takeover.first] ++ [Takeover.last])).2 =
        joinErrors [.codecConflict, .codecConflict] := by
  have hreachable : Takeover.engine.Reachable := ⟨0, _, rfl⟩
  have hkind : MediaKind.ofText? Takeover.last.media = some .video :=
    MediaKind.ofText?_text .video
  have hread : ∀ fault, (Takeover.engine.update ([Takeover.first] ++ [Takeover.last])).2 ≠
      .error (.numeral fault) :=
    update_ne_numeral_iff.2 (by decide +kernel)
  obtain ⟨hcodecs, -, hreport⟩ :=
    update_concat hreachable [Takeover.first] Takeover.last hkind (fun _ => rfl) hread
  refine ⟨hread, ?_, ?_⟩
  · rw [hcodecs]
    decide +kernel
  · rw [hreport]
    decide +kernel

end MediaNegotiation
