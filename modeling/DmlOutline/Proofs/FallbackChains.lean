import DmlOutline.Decoder
import DmlOutline.Proofs.ConfigFiles
import Mathlib.Data.List.Basic

/-!
# Chains of encodings without repetitions

Several labels may mean one encoding, and a decoder tries it once, at the place of the first of them.
That cannot be seen in what is decoded: an encoding that refused some bytes would refuse them again.

* `Decoder.inTurn` — the text in the first encoding that accepts the bytes, label by label and with
  nothing left out.
* `Decoder.FirstUses` — the encodings that labels mean, each once and in the order of its first use.

Principal results: `Decoder.firstUses_naming`: what a chain holds; `Decoder.decodeWith_naming`: how it
decodes; `Decoder.naming_in_turn`.
-/

namespace DmlOutline.Decoder

variable {α : Type}

/-! ## Labels in turn -/

/-- The text of some bytes in the first encoding that a label means and that accepts them. -/
def inTurn (meaning : String → Option α) (decode : α → ByteArray → Option String)
    (labels : List String) (bytes : ByteArray) : Option String :=
  labels.findSome? fun label => (meaning label).bind (decode · bytes)

theorem inTurn_append (meaning : String → Option α) (decode : α → ByteArray → Option String)
    (front back : List String) (bytes : ByteArray) :
    inTurn meaning decode (front ++ back) bytes =
      (inTurn meaning decode front bytes).or (inTurn meaning decode back bytes) :=
  List.findSome?_append

/-! ## What a chain holds -/

variable [DecidableEq α] {chain meant : List α}

/-- A chain holds what is meant, each encoding once and in the order of its first use. -/
structure FirstUses (meant chain : List α) : Prop where
  mem_iff : ∀ encoding, encoding ∈ chain ↔ encoding ∈ meant
  inOrder : chain.Pairwise fun earlier later => meant.idxOf earlier < meant.idxOf later

theorem firstUses_nil : FirstUses ([] : List α) [] :=
  ⟨fun _ => Iff.rfl, .nil⟩

/-- An order is strict, so nothing is held twice. -/
theorem FirstUses.nodup (h : FirstUses meant chain) : chain.Nodup :=
  h.inOrder.imp fun hlt heq => absurd (heq ▸ hlt) (Nat.lt_irrefl _)

/-- What is used again keeps its place, and what is new comes last. -/
theorem FirstUses.add (h : FirstUses meant chain) (encoding : α) :
    FirstUses (meant ++ [encoding]) (add chain encoding) := by
  have hkept : chain.Pairwise fun earlier later =>
      (meant ++ [encoding]).idxOf earlier < (meant ++ [encoding]).idxOf later := by
    refine h.inOrder.imp_of_mem fun hearlier hlater hlt => ?_
    rwa [List.idxOf_append_of_mem ((h.mem_iff _).mp hearlier),
      List.idxOf_append_of_mem ((h.mem_iff _).mp hlater)]
  unfold Decoder.add
  split
  · rename_i hheld
    refine ⟨fun other => ?_, hkept⟩
    rw [List.mem_append, ← h.mem_iff, List.mem_singleton]
    exact ⟨.inl, fun hor => hor.elim id fun heq => heq ▸ hheld⟩
  · rename_i hnew
    rw [h.mem_iff] at hnew
    refine ⟨fun other => by rw [List.mem_append, List.mem_append, h.mem_iff], ?_⟩
    refine List.pairwise_append.mpr ⟨hkept, List.pairwise_singleton _ _, ?_⟩
    intro earlier hearlier later hlater
    obtain rfl := List.mem_singleton.mp hlater
    have hmeant := (h.mem_iff earlier).mp hearlier
    rw [List.idxOf_append_of_mem hmeant, List.idxOf_append_of_notMem hnew]
    exact Nat.lt_add_right _ (List.idxOf_lt_length_of_mem hmeant)

theorem FirstUses.foldl_add (h : FirstUses meant chain) (more : List α) :
    FirstUses (meant ++ more) (more.foldl Decoder.add chain) := by
  induction more generalizing meant chain with
  | nil => rwa [List.append_nil]
  | cons encoding rest ih =>
    have hrest := ih (h.add encoding)
    rwa [List.append_assoc, List.singleton_append] at hrest

/-- **A decoder holds what its labels mean, each encoding once and in the order of its first use.** -/
theorem firstUses_naming (meaning : String → Option α) (labels : List String) :
    FirstUses (labels.filterMap meaning) (naming meaning labels).fallbacks :=
  firstUses_nil.foldl_add _

/-! ## How a chain decodes -/

/-- An encoding that is in a chain is tried in vain at its end. -/
theorem findSome?_add (read? : α → Option String) (chain : List α) (encoding : α) :
    (add chain encoding).findSome? read? = (chain ++ [encoding]).findSome? read? := by
  unfold Decoder.add
  split
  · rename_i hheld
    rw [List.findSome?_append]
    cases hfound : chain.findSome? read? with
    | some text => rfl
    | none => simp [List.findSome?_eq_none_iff.mp hfound encoding hheld]
  · rfl

theorem findSome?_foldl_add (read? : α → Option String) (chain more : List α) :
    (more.foldl add chain).findSome? read? = (chain ++ more).findSome? read? := by
  induction more generalizing chain with
  | nil => rw [List.foldl_nil, List.append_nil]
  | cons encoding rest ih =>
    rw [List.foldl_cons, ih, List.findSome?_append, findSome?_add, ← List.findSome?_append,
      List.append_assoc, List.singleton_append]

/-- **A decoder reads bytes as UTF-8, and else as its labels would one after the other.** -/
theorem decodeWith_naming (meaning : String → Option α) (decode : α → ByteArray → Option String)
    (labels : List String) (bytes : ByteArray) :
    (naming meaning labels).decodeWith decode bytes =
      (String.fromUTF8? bytes).or (inTurn meaning decode labels bytes) := by
  unfold decodeWith
  cases String.fromUTF8? bytes with
  | some text => rfl
  | none =>
    simp only [Option.none_or, naming, findSome?_foldl_add, List.nil_append, inTurn]
    rw [← List.head?_filterMap, List.filterMap_filterMap, List.head?_filterMap]

/-- **Repeated labels are harmless, whatever labels mean and encodings do.** What is decoded is what
the labels give in turn; a chain holds no encoding twice and keeps the order of first uses; more
labels at the end change no text; and of a configuration file that is accepted, every label is
used. -/
theorem naming_in_turn (meaning : String → Option α) (decode : α → ByteArray → Option String)
    (labels : List String) :
    (∀ bytes, (naming meaning labels).decodeWith decode bytes =
      (String.fromUTF8? bytes).or (inTurn meaning decode labels bytes)) ∧
    ((naming meaning labels).fallbacks.Nodup ∧
      FirstUses (labels.filterMap meaning) (naming meaning labels).fallbacks) ∧
    (∀ more bytes text, (naming meaning labels).decodeWith decode bytes = some text →
      (naming meaning (labels ++ more)).decodeWith decode bytes = some text) ∧
    ∀ (disk next : Disk) path config,
      disk.run (FileConfig.loadKnowing (fun label => (meaning label).isSome) path) =
        (.ok (some config), next) →
      config.encodings = some labels →
        ∀ label ∈ labels, ∃ encoding ∈ (naming meaning labels).fallbacks,
          meaning label = some encoding := by
  have huses := firstUses_naming meaning labels
  refine ⟨decodeWith_naming meaning decode labels, ⟨huses.nodup, huses⟩, ?_, ?_⟩
  · intro more bytes text h
    rw [decodeWith_naming] at h ⊢
    rw [inTurn_append, ← Option.or_assoc, h, Option.some_or]
  · intro disk next path config hload hlabels label hlabel
    have hknown := FileConfig.known_of_run_loadKnowing hload label (by rwa [hlabels])
    obtain ⟨encoding, hmeaning⟩ := Option.isSome_iff_exists.mp hknown
    refine ⟨encoding, (huses.mem_iff encoding).mpr ?_, hmeaning⟩
    exact List.mem_filterMap.mpr ⟨label, hlabel, hmeaning⟩

/-- A configuration that names one encoding by two labels. -/
def repeatedLabels : FileConfig where
  encodings := some ["windows-949", "EUC-KR", "latin1"]

/-- Its file is accepted. A byte that no Korean text has is read as Western text, with more labels or
without, and the label that means what another one meant before is used, too. -/
theorem naming_in_turn_repeated :
    ∃ next, (⟨.directory [("c", .file repeatedLabels.toText.toUTF8)], []⟩ : Disk).run
        (FileConfig.load ⟨"c"⟩) = (.ok (some repeatedLabels), next) ∧
      (ofLabels ["windows-949", "EUC-KR", "latin1"]).decode? ⟨#[0xFF]⟩ = some "ÿ" ∧
      (ofLabels ["windows-949", "EUC-KR", "latin1", "utf-16", "klingon-8"]).decode? ⟨#[0xFF]⟩ =
        some "ÿ" ∧
      ∃ encoding ∈ (ofLabels ["windows-949", "EUC-KR", "latin1"]).fallbacks,
        Encoding.ofLabel? "EUC-KR" = some encoding := by
  have hload : (⟨.directory [("c", .file repeatedLabels.toText.toUTF8)], []⟩ : Disk).run
      (FileConfig.load ⟨"c"⟩) = (.ok (some repeatedLabels), _) :=
    Disk.run_eq_ok_of_toOption (by decide +kernel)
  have htext : (ofLabels ["windows-949", "EUC-KR", "latin1"]).decode? ⟨#[0xFF]⟩ = some "ÿ" := by
    decide +kernel
  obtain ⟨-, -, hmore, hused⟩ :=
    naming_in_turn Encoding.ofLabel? Encoding.decode? ["windows-949", "EUC-KR", "latin1"]
  exact ⟨_, hload, htext, hmore ["utf-16", "klingon-8"] _ _ htext,
    hused _ _ _ _ hload rfl "EUC-KR" (by decide)⟩

end DmlOutline.Decoder
