import MediaNegotiation.Engine.Views
import MediaNegotiation.Proofs.Format.Compatibility
import MediaNegotiation.Proofs.Negotiation.Answering
import MediaNegotiation.Proofs.Negotiation.Takeover
import MediaNegotiation.Proofs.Registration.Codecs

/-!
# An engine recognises its own codecs

A description that repeats what an engine offers is matched codec by codec with the codecs it was
made from: no codec in front of one is taken for it, and the codec that one belongs to has been
matched before it. The negotiated list is then the registered one.

One thing can change. A line may name several associated payload types, and the last of them holds.
All of them are pointed at the codec that this one stands for, so a line in which they differ does
not come back as it was.

Results:
* `map_settled_eq_self_iff`: which lists come back as they were.
* `matchCodecs_own`, `committed_own`: the matches of a list with itself, and what it commits.
* `registered_registerCodecs`, `recognisable_defaults`: the default codecs are recognised.
* `update_own`: what a kind negotiates with its own codecs.
-/

namespace MediaNegotiation

/-! ## Lists that are recognised -/

/-- The segments of the line of a codec that are read as an associated payload type. -/
def Codec.aptSegments (c : Codec) : List (List Char) :=
  (Parameters.segments c.fmtp).filter fun segment => (Parameters.value? "apt" segment).isSome

/-- A codec that is recognised behind others: it is compatible with itself, no codec in front of it
has its format and is compatible with it, and each associated payload type it names is written in
decimal and is that of a codec in front of it. -/
structure Codec.Recognised (c : Codec) (front : List Codec) : Prop where
  self : (Format.ofCodec c).compatible (.ofCodec c) = true
  first : ∀ d ∈ front, d.sameFormat c = true →
    (Format.ofCodec d).compatible (.ofCodec c) = false
  behind : ∀ segment ∈ c.aptSegments, ∃ d ∈ front, segment = Parameters.aptSegment d.payloadType

instance (c : Codec) (front : List Codec) : Decidable (c.Recognised front) :=
  decidable_of_iff
    ((Format.ofCodec c).compatible (.ofCodec c) = true ∧
      (∀ d ∈ front, d.sameFormat c = true →
        (Format.ofCodec d).compatible (.ofCodec c) = false) ∧
      ∀ segment ∈ c.aptSegments, ∃ d ∈ front, segment = Parameters.aptSegment d.payloadType)
    ⟨fun h => ⟨h.1, h.2.1, h.2.2⟩, fun h => ⟨h.self, h.first, h.behind⟩⟩

/-- Every codec of a list is recognised behind those before it, those of `front` included. -/
def Recognisable (front : List Codec) : List Codec → Prop
  | [] => True
  | c :: rest => c.Recognised front ∧ Recognisable (front ++ [c]) rest

/-- Recognition is decided from the front of a list to its end. -/
def decideRecognisable (front : List Codec) :
    (codecs : List Codec) → Decidable (Recognisable front codecs)
  | [] => isTrue trivial
  | c :: rest => @instDecidableAnd _ _ inferInstance (decideRecognisable (front ++ [c]) rest)

instance (front codecs : List Codec) : Decidable (Recognisable front codecs) :=
  decideRecognisable front codecs

theorem Recognisable.recognised {front before after : List Codec} {c : Codec}
    (h : Recognisable front (before ++ c :: after)) : c.Recognised (front ++ before) := by
  induction before generalizing front with
  | nil => simpa using h.1
  | cons d rest ih => simpa using ih h.2

/-- A codec the line of which names one associated payload type at most. -/
def Codec.NamesOne (c : Codec) : Prop := ∀ s ∈ c.aptSegments, ∀ t ∈ c.aptSegments, s = t

instance (c : Codec) : Decidable c.NamesOne :=
  inferInstanceAs (Decidable (∀ s ∈ c.aptSegments, ∀ t ∈ c.aptSegments, s = t))

/-- A codec with all its associated payload types pointed at the one that holds. -/
def Codec.settled (c : Codec) : Codec :=
  match associated c with
  | .ok (some payloadType) => { c with fmtp := Parameters.retargetApt c.fmtp payloadType }
  | _ => c

section

variable {c : Codec} {front back registered : List Codec}

/-- A recognised codec belongs to no other one, or it belongs to a codec in front of it, which one
of its segments names. -/
theorem Codec.Recognised.associated_cases (h : c.Recognised front) :
    (c.aptSegments = [] ∧ associated c = .ok none) ∨
      ∃ d ∈ front, Parameters.aptSegment d.payloadType ∈ c.aptSegments ∧
        (Parameters.ofLine c.fmtp)["apt"]? = some (String.ofList (Numeral.write d.payloadType)) ∧
        associated c = .ok (some d.payloadType) := by
  have hline := Parameters.getElem?_ofLine c.fmtp "apt"
  cases hnamed : (Parameters.segments c.fmtp).reverse.findSome? (Parameters.value? "apt") with
  | none =>
    rw [hnamed] at hline
    refine .inl ⟨?_, associated_of_none hline⟩
    rw [Codec.aptSegments, List.filter_eq_nil_iff]
    intro segment hsegment
    simp [List.findSome?_eq_none_iff.1 hnamed segment (List.mem_reverse.2 hsegment)]
  | some value =>
    rw [hnamed] at hline
    obtain ⟨segment, hsegment, hvalue⟩ := List.exists_of_findSome?_eq_some hnamed
    have hmem : segment ∈ c.aptSegments :=
      List.mem_filter.2 ⟨List.mem_reverse.1 hsegment, by simp [hvalue]⟩
    obtain ⟨d, hd, rfl⟩ := h.behind segment hmem
    rw [Parameters.value?_of_read (Parameters.readSegment_aptSegment d.payloadType), if_pos rfl]
      at hvalue
    obtain rfl := Option.some.inj hvalue
    refine .inr ⟨d, hd, hmem, hline, ?_⟩
    rw [associated_of_some hline, String.toList_ofList, Numeral.readUInt8_write]
    rfl

theorem Codec.settled_of_alone (h : associated c = .ok none) : c.settled = c := by
  rw [Codec.settled, h]

theorem Codec.settled_of_behind {payloadType : UInt8}
    (h : associated c = .ok (some payloadType)) :
    c.settled = { c with fmtp := Parameters.retargetApt c.fmtp payloadType } := by
  rw [Codec.settled, h]

/-- Settling a codec touches nothing but its line. -/
theorem Codec.settled_frame (c : Codec) : ∃ line, c.settled = { c with fmtp := line } := by
  unfold Codec.settled
  split
  · exact ⟨_, rfl⟩
  · exact ⟨c.fmtp, rfl⟩

@[simp] theorem Codec.payloadType_settled (c : Codec) : c.settled.payloadType = c.payloadType := by
  obtain ⟨line, hline⟩ := c.settled_frame
  rw [hline]

/-- A recognised codec keeps its format. -/
theorem Codec.Recognised.ofCodec_settled (h : c.Recognised front) :
    Format.ofCodec c.settled = .ofCodec c := by
  rcases h.associated_cases with ⟨-, halone⟩ | ⟨d, -, -, hline, hbehind⟩
  · rw [Codec.settled_of_alone halone]
  · have hsame : Parameters.ofLine (Parameters.retargetApt c.fmtp d.payloadType) =
        Parameters.ofLine c.fmtp := by
      refine Std.ExtTreeMap.ext_getElem? fun key => ?_
      rw [ofLine_retarget hbehind, Std.ExtTreeMap.getElem?_insert]
      split
      · rename_i hkey
        rw [← Std.LawfulEqCmp.eq_of_compare hkey, hline]
      · rfl
    rw [Codec.settled_of_behind hbehind]
    simp only [Format.ofCodec, Format.read, hsame]

/-- Settling a recognised codec changes nothing exactly when its line names one payload type at
most. -/
theorem Codec.Recognised.settled_eq_self_iff (h : c.Recognised front) :
    c.settled = c ↔ c.NamesOne := by
  rcases h.associated_cases with ⟨hnone, halone⟩ | ⟨d, -, hlast, -, hbehind⟩
  · simp [Codec.NamesOne, hnone, Codec.settled_of_alone halone]
  · have hnames : ∀ s, s ∈ c.aptSegments ↔
        s ∈ Parameters.segments c.fmtp ∧ Parameters.isApt s = true := by
      intro s
      rw [Codec.aptSegments, List.mem_filter]
      refine ⟨fun hs => ⟨hs.1, ?_⟩, fun hs => ⟨hs.1, ?_⟩⟩
      · obtain ⟨x, -, rfl⟩ := h.behind s (List.mem_filter.2 hs)
        exact Parameters.isApt_aptSegment x.payloadType
      · obtain ⟨value, hread⟩ := Parameters.readSegment_of_isApt hs.2
        simp [Parameters.value?_of_read hread]
    have hline : c.settled = c ↔ Parameters.retargetApt c.fmtp d.payloadType = c.fmtp := by
      rw [Codec.settled_of_behind hbehind]
      constructor
      · exact congrArg Codec.fmtp
      · intro hsame
        rw [hsame]
    rw [hline, Parameters.retargetApt_eq_self_iff]
    constructor
    · intro hall s hs t ht
      rw [hall s ((hnames s).1 hs).1 ((hnames s).1 hs).2,
        hall t ((hnames t).1 ht).1 ((hnames t).1 ht).2]
    · intro hall s hs hapt
      exact hall s ((hnames s).2 ⟨hs, hapt⟩) _ hlast

/-- Settling a list that is recognised changes nothing exactly when no line names more than one
payload type. -/
theorem map_settled_eq_self_iff (h : Recognisable [] registered) :
    registered.map Codec.settled = registered ↔ ∀ c ∈ registered, c.NamesOne := by
  have hself : registered.map Codec.settled = registered ↔ ∀ c ∈ registered, c.settled = c := by
    have hid := List.map_inj_left (l := registered) (f := Codec.settled) (g := id)
    rwa [List.map_id] at hid
  rw [hself]
  refine forall₂_congr fun c hc => ?_
  obtain ⟨before, after, rfl⟩ := List.append_of_mem hc
  exact h.recognised.settled_eq_self_iff

/-! ## Matches of a list with itself -/

/-- A recognised codec is matched with itself. -/
theorem search_settled (h : c.Recognised front) :
    search (front ++ c :: back) c.settled = some (c, .exact) := by
  obtain ⟨line, hline⟩ := c.settled_frame
  have hformat : ∀ d : Codec, d.sameFormat c.settled = d.sameFormat c := by
    intro d
    rw [hline]
    rfl
  have hfront :
      front.find? (fun d => d.sameFormat c && (Format.ofCodec c).compatible (.ofCodec d)) =
      none := by
    rw [List.find?_eq_none]
    intro d hd hboth
    rw [Bool.and_eq_true, Format.compatible_symm] at hboth
    simp [h.first d hd hboth.1] at hboth
  simp only [search, hformat, h.ofCodec_settled, List.find?_append, hfront, Option.none_or]
  rw [List.find?_cons_of_pos (by simp [h.self])]

theorem entryFor_settled (c : Codec) : entryFor c.settled c = c.settled := by
  obtain ⟨line, hline⟩ := c.settled_frame
  have hfeedback : Feedback.shared c.feedback c.feedback = c.feedback := by
    simp [Feedback.shared]
  rw [hline, entryFor, hfeedback]

/-- The matches of codecs with themselves. -/
def Found.own (codecs : List Codec) : Found :=
  { exact := codecs.map fun c => ⟨c.payloadType, c.settled⟩ }

theorem Found.locate?_own {d : Codec} (hd : d ∈ front) :
    (Found.own front).locate? d.payloadType = some (d.payloadType, .exact) := by
  unfold Found.locate? Found.own
  cases hfind : (front.map fun c => (⟨c.payloadType, c.settled⟩ : Match)).find?
      (·.remoteType == d.payloadType) with
  | none =>
    rw [List.find?_eq_none] at hfind
    simpa using hfind _ (List.mem_map_of_mem hd)
  | some m =>
    obtain ⟨x, -, rfl⟩ := List.mem_map.1 (List.mem_of_find?_eq_some hfind)
    have htype : x.payloadType = d.payloadType := by simpa using List.find?_some hfind
    simp [htype]

/-- Behind the matches of the codecs in front of it, a recognised codec is matched with itself. -/
theorem matchCodec_own (h : c.Recognised front) :
    (matchCodec (front ++ c :: back) (.own front) c).result = .ok (some (c.settled, .exact)) := by
  have hmatch : matchWithin (front ++ c :: back) c.settled .exact = some (c.settled, .exact) := by
    rw [matchWithin, search_settled h, Option.map_some]
    show some (entryFor c.settled c, Tier.exact) = _
    rw [entryFor_settled]
  rcases h.associated_cases with ⟨-, halone⟩ | ⟨d, hd, -, -, hbehind⟩
  · rw [matchCodec_alone halone, ← hmatch, Codec.settled_of_alone halone]
  · rw [matchCodec_behind hbehind (Found.locate?_own hd), ← hmatch,
      Codec.settled_of_behind hbehind]

/-- A list that is recognised is matched with itself from the front to any of its codecs. -/
theorem matchCodecs_own (h : Recognisable [] registered) (heq : registered = front ++ back) :
    (matchCodecs registered {} front).fault = none ∧
      (matchCodecs registered {} front).found = .own front := by
  induction front using List.reverseRecOn generalizing back with
  | nil => exact ⟨rfl, rfl⟩
  | append_singleton front c ih =>
    rw [List.append_assoc, List.singleton_append] at heq
    obtain ⟨hread, hfound⟩ := ih heq
    have hc : (matchCodec registered (.own front) c).result = .ok (some (c.settled, .exact)) := by
      rw [heq] at h ⊢
      exact matchCodec_own h.recognised
    constructor
    · rw [← Option.not_isSome_iff_eq_none, matchCodecs_fault_isSome_iff] at hread ⊢
      rintro ⟨d, hd, fault, hfault⟩
      rcases List.mem_append.1 hd with hd | hd
      · exact hread ⟨d, hd, fault, hfault⟩
      · rw [List.mem_singleton.1 hd] at hfault
        rw [matchCodec_unreadable hfault] at hc
        simp at hc
    · rw [found_matchCodecs_concat c hread, hfound, hc]
      simp [Except.toOption, Found.add, Found.own]

/-- What a list commits that is matched with itself. -/
theorem committed_own (h : Recognisable [] registered) :
    committed registered registered = registered.map Codec.settled := by
  obtain ⟨hread, hfound⟩ := matchCodecs_own h (List.append_nil registered).symm
  have hentries := entries_matchCodecs hread
  rw [hfound] at hentries
  have hexact : entriesOf registered registered .exact = registered.map Codec.settled := by
    rw [← hentries]
    simp [Found.ofTier, Found.own, Function.comp_def]
  have hloose : entriesOf registered registered .loose = [] := by
    rw [← hentries]
    rfl
  rw [committed, hexact, hloose]
  cases registered <;> simp

end

/-! ## The default codecs -/

/-- The codecs of a kind in a list for both kinds. -/
def codecsFor (kind : MediaKind) (list : List (MediaKind × Codec)) : List Codec :=
  list.filterMap fun entry => if entry.1 = kind then some entry.2 else none

/-- Stats ids and feedback play no part in what is recognised. -/
theorem recognisable_bare {front codecs : List Codec} :
    Recognisable (front.map Codec.bare) (codecs.map Codec.bare) ↔ Recognisable front codecs := by
  have hrecognised : ∀ (c : Codec) (front : List Codec),
      c.bare.Recognised (front.map Codec.bare) ↔ c.Recognised front := by
    intro c front
    constructor
    · rintro ⟨hself, hfirst, hbehind⟩
      refine ⟨hself, fun d hd => hfirst d.bare (List.mem_map_of_mem hd), fun s hs => ?_⟩
      obtain ⟨x, hx, rfl⟩ := hbehind s hs
      obtain ⟨d, hd, rfl⟩ := List.mem_map.1 hx
      exact ⟨d, hd, rfl⟩
    · rintro ⟨hself, hfirst, hbehind⟩
      refine ⟨hself, List.forall_mem_map.2 hfirst, fun s hs => ?_⟩
      obtain ⟨d, hd, rfl⟩ := hbehind s hs
      exact ⟨d.bare, List.mem_map_of_mem hd, rfl⟩
  induction codecs generalizing front with
  | nil => exact Iff.rfl
  | cons c rest ih =>
    have hrest := @ih (front ++ [c])
    rw [List.map_append, List.map_cons, List.map_nil] at hrest
    exact and_congr (hrecognised c front) hrest

/-- Codecs with payload types of their own are all registered, in their order. -/
theorem registered_registerCodecs {e : Engine} {list : List (MediaKind × Codec)}
    (hd : ∀ l, ((e.registered.get l ++ codecsFor l list).map (·.payloadType)).Nodup)
    (serial : Nat) (kind : MediaKind) :
    ((e.registerCodecs serial list).1.registered.get kind).map Codec.bare =
      (e.registered.get kind ++ codecsFor kind list).map Codec.bare := by
  induction list generalizing e serial with
  | nil => simp [Engine.registerCodecs, codecsFor]
  | cons entry rest ih =>
    obtain ⟨own, c⟩ := entry
    have hfree : Codec.find? (e.registered.get own) c.payloadType = none := by
      have hfirst : codecsFor own ((own, c) :: rest) = c :: codecsFor own rest := by
        simp [codecsFor]
      exact find?_eq_none_of_distinct (hfirst ▸ hd own)
    obtain ⟨next, hstep, hnext⟩ : ∃ next,
        e.registerCodec own c (.issued serial) = (next, .ok ()) ∧
          next.registered = e.registered.set own
            (e.registered.get own ++ [{ c with statsId := .issued serial }]) :=
      ⟨_, Engine.registerCodec_of_free hfree (.issued serial), rfl⟩
    -- the first codec is only moved from the list to the end of those that are registered
    have hmoved : ∀ {β : Type} (f : Codec → β), f { c with statsId := .issued serial } = f c →
        ∀ l, (next.registered.get l ++ codecsFor l rest).map f =
          (e.registered.get l ++ codecsFor l ((own, c) :: rest)).map f := by
      intro β f hf l
      rw [hnext, PerKind.get_set]
      by_cases hl : l = own
      · subst hl
        simp [codecsFor, hf]
      · simp [codecsFor, hl, Ne.symm hl]
    rw [Engine.registerCodecs, hstep, ← hmoved Codec.bare rfl kind]
    refine ih (fun l => ?_) (serial + 1)
    rw [hmoved (·.payloadType) rfl l]
    exact hd l

namespace Defaults

/-- The MIME types, the lines and the payload types of the default video codecs. -/
def videoLines : List (String × String × UInt8) := [
  (Mime.vp8, "", 96), (Mime.rtx, "apt=96", 97),
  (Mime.h264, h264Line "1" "42001f", 102), (Mime.rtx, "apt=102", 103),
  (Mime.h264, h264Line "0" "42001f", 104), (Mime.rtx, "apt=104", 105),
  (Mime.h264, h264Line "1" "42e01f", 106), (Mime.rtx, "apt=106", 107),
  (Mime.h264, h264Line "0" "42e01f", 108), (Mime.rtx, "apt=108", 109),
  (Mime.h264, h264Line "1" "4d001f", 127), (Mime.rtx, "apt=127", 125),
  (Mime.h264, h264Line "0" "4d001f", 39), (Mime.rtx, "apt=39", 40),
  (Mime.h265, "", 116), (Mime.rtx, "apt=116", 117),
  (Mime.av1, "", 45), (Mime.rtx, "apt=45", 46),
  (Mime.vp9, "profile-id=0", 98), (Mime.rtx, "apt=98", 99),
  (Mime.vp9, "profile-id=2", 100), (Mime.rtx, "apt=100", 101),
  (Mime.h264, h264Line "1" "64001f", 112), (Mime.rtx, "apt=112", 113)]

/-- A video codec with a line, under a payload type. -/
def videoCodec (mime fmtp : String) (payloadType : UInt8) : Codec :=
  ⟨mime, 90000, 0, fmtp, [], payloadType, .given ""⟩

theorem bare_video : (codecsFor .video codecs).map Codec.bare =
    videoLines.map fun (mime, fmtp, payloadType) => videoCodec mime fmtp payloadType := by
  decide +kernel

end Defaults

/-- The default codecs of each kind are recognised, whatever their stats ids. -/
theorem recognisable_defaults (serial : Nat) (kind : MediaKind) :
    Recognisable [] ((({} : Engine).registerDefaults serial).1.registered.get kind) ∧
      ∀ c ∈ (({} : Engine).registerDefaults serial).1.registered.get kind, c.NamesOne := by
  have hdistinct : ∀ l, ((({} : Engine).registered.get l ++ codecsFor l Defaults.codecs).map
      (·.payloadType)).Nodup := by
    intro l
    cases l <;> decide +kernel
  have hbare := registered_registerCodecs hdistinct serial kind
  have hdecided : Recognisable [] ((codecsFor kind Defaults.codecs).map Codec.bare) ∧
      ∀ c ∈ (codecsFor kind Defaults.codecs).map Codec.bare, c.NamesOne := by
    cases kind with
    | audio => decide +kernel
    | video =>
      rw [Defaults.bare_video]
      decide +kernel
  have hempty : ({} : Engine).registered.get kind = [] := by
    cases kind <;> rfl
  rw [hempty, List.nil_append] at hbare
  rw [← hbare] at hdecided
  rw [Engine.registerDefaults]
  refine ⟨(@recognisable_bare [] _).1 hdecided.1, fun c hc => ?_⟩
  exact hdecided.2 c.bare (List.mem_map_of_mem hc)

/-! ## Updates -/

/-- The first section of a kind that has the registered codecs negotiates them without a
conflict. -/
theorem applySection_own {e : Engine} (he : e.Grounded) {kind : MediaKind}
    (hfresh : e.negotiated.hasKind kind = false) (hown : Recognisable [] (e.registered.get kind))
    {r : RemoteSection} (hkind : MediaKind.ofText? r.media = some kind)
    (hr : r.codecs = e.registered.get kind) :
    (applySection e e.negotiated r).fault = none ∧
      (applySection e e.negotiated r).negotiated.codecs.get kind =
        some ((e.registered.get kind).map Codec.settled) ∧
      (applySection e e.negotiated r).conflicts = [] := by
  have hreadable : ¬ r.Malformed := by
    rw [RemoteSection.Malformed, hr, ← matchCodecs_fault_isSome_iff, Option.not_isSome_iff_eq_none]
    exact (matchCodecs_own hown (List.append_nil _).symm).1
  have hfault : (applySection e e.negotiated r).fault = none := by
    rw [← Option.not_isSome_iff_eq_none, applySection_fault_isSome_iff]
    exact fun hstops => hreadable hstops.1
  have hheld : e.negotiated.codecsOf kind = [] := e.negotiated.codecsOf_of_fresh kind hfresh
  obtain ⟨hcodecs, hconflicts⟩ := codecs_applySection (e := e) (s := e.negotiated) hkind
    (fun hk => by simp [hfresh] at hk) (by simp [hheld]) hreadable
  rw [hheld, hr, committed_own hown] at hcodecs hconflicts
  have hdistinct : (([] ++ (e.registered.get kind).map Codec.settled : List Codec).map
      (·.payloadType)).Nodup := by
    simpa [Function.comp_def] using he.registered kind
  obtain ⟨hall, hnone⟩ := firstFree_of_distinct hdistinct
  rw [hall, List.nil_append] at hcodecs
  rw [hnone, List.replicate_zero] at hconflicts
  exact ⟨hfault, hcodecs, hconflicts⟩

/-- **An engine recognises its own codecs.** Let a kind of a reachable engine not be negotiated yet,
and let its codecs be recognised, as the default codecs are. An update with a section of that kind
which has just these codecs, and any header extensions, succeeds. The codecs of the kind are the
same afterwards, in the same order, except that the associated payload types which a line names are
all pointed at the one that holds. Nothing changes exactly if no line names more than one, as none
of the default codecs does. -/
theorem update_own {e : Engine} (he : e.Reachable) {kind : MediaKind}
    (hfresh : e.negotiated.hasKind kind = false) (hown : Recognisable [] (e.registered.get kind))
    {r : RemoteSection} (hkind : MediaKind.ofText? r.media = some kind)
    (hr : r.codecs = e.codecs kind) :
    (e.update [r]).2 = .ok () ∧
      (e.update [r]).1.codecs kind = (e.codecs kind).map Codec.settled ∧
      ((e.update [r]).1.codecs kind = e.codecs kind ↔ ∀ c ∈ e.codecs kind, c.NamesOne) ∧
      ∀ serial l, Recognisable [] ((({} : Engine).registerDefaults serial).1.registered.get l) ∧
        ∀ c ∈ (({} : Engine).registerDefaults serial).1.registered.get l, c.NamesOne := by
  have hregistered : e.codecs kind = e.registered.get kind :=
    Engine.codecs_of_not_negotiated hfresh
  rw [hregistered] at hr ⊢
  have hground : e.Grounded := kept_grounded.reachable grounded_new he
  obtain ⟨hfault, hcodecs, hconflicts⟩ := applySection_own hground hfresh hown hkind hr
  have hafter : (e.update [r]).1.codecs kind = (e.registered.get kind).map Codec.settled := by
    refine Engine.codecs_of_negotiated ?_
    show (applySections e e.negotiated [r]).negotiated.codecs.get kind = _
    rw [(applySections_singleton e e.negotiated r).1, hcodecs]
  refine ⟨?_, hafter, ?_, recognisable_defaults⟩
  · rw [update_eq_ok_iff, applySections_cons hfault]
    exact ⟨rfl, by simp [hconflicts, applySections]⟩
  · rw [hafter]
    exact map_settled_eq_self_iff hown

/-- The default video codecs of a new engine come back as they were. -/
theorem update_own_defaults :
    let e := (Bench.run {} [.registerDefaults]).engine
    (e.update [{ media := "video", codecs := e.codecs .video }]).2 = .ok () ∧
      (e.update [{ media := "video", codecs := e.codecs .video }]).1.codecs .video =
        e.codecs .video := by
  intro e
  have hreachable : e.Reachable := ⟨0, _, rfl⟩
  have hregistered : e = (({} : Engine).registerDefaults 0).1 := by
    simp [e, Bench.run, Bench.step]
  have hnothing : e.negotiated = {} := by
    rw [hregistered]
    exact Engine.registerCodecs_keeps (P := fun now => now.negotiated = {})
      (fun kind c id hnow => (Engine.registerCodec_frame _ kind c id).2.trans hnow) rfl 0
      Defaults.codecs
  have hfresh : e.negotiated.hasKind .video = false := by
    rw [hnothing]
    rfl
  have hdefaults := recognisable_defaults 0 .video
  rw [← hregistered] at hdefaults
  obtain ⟨hok, -, hsame, -⟩ := update_own hreachable hfresh hdefaults.1
    (r := { media := "video", codecs := e.codecs .video }) (MediaKind.ofText?_text .video) rfl
  rw [Engine.codecs_of_not_negotiated hfresh] at hsame ⊢
  exact ⟨hok, hsame.2 hdefaults.2⟩

namespace Twofold

/-- An engine whose retransmission codec names two codecs. -/
def engine : Engine := (Bench.run {} [
  .registerCodec .video (Defaults.videoCodec Mime.vp8 "" 96),
  .registerCodec .video (Defaults.videoCodec Mime.vp9 "" 98),
  .registerCodec .video (Defaults.videoCodec Mime.rtx "apt=96;apt=98" 99)]).engine

end Twofold

/-- A line that names two codecs does not come back as it was: both its segments name the codec that
the last of them names. -/
theorem update_own_of_two_names :
    Twofold.engine.Reachable ∧ Twofold.engine.negotiated.hasKind .video = false ∧
      Recognisable [] (Twofold.engine.registered.get .video) ∧
      (Twofold.engine.update [{ media := "video", codecs := Twofold.engine.codecs .video }]).2 =
        .ok () ∧
      ((Twofold.engine.update
          [{ media := "video", codecs := Twofold.engine.codecs .video }]).1.codecs .video).map
        (·.fmtp) = ["", "", "apt=98;apt=98"] ∧
      (Twofold.engine.update
          [{ media := "video", codecs := Twofold.engine.codecs .video }]).1.codecs .video ≠
        Twofold.engine.codecs .video := by
  refine ⟨⟨0, _, rfl⟩, ?_⟩
  decide +kernel

end MediaNegotiation
