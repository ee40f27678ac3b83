import VaultspecA2A.PermissionOptions

/-!
# What an answer to a list of options means

An entry of an option list can carry an id under two spellings. An answer is admitted when some
entry carries its id under either of them; it is judged by the first entry whose own id it is, and
the own id of an entry with both spellings is the one under `optionId`. An id that is the own id of
no entry is judged by its letters.
-/
namespace VaultspecA2A.AnsweredOptions
open PyValue PermissionOptions List Option

/-- The entry carries the id under one of the two spellings. -/
def carries (optionId : String) (option : Value) : Bool :=
  option.getStr "optionId" == some optionId || option.getStr "option_id" == some optionId

def rejectingKind (kind : PermissionOptionKind) : Bool :=
  kind == .rejectOnce || kind == .rejectAlways

/-- Whether an entry means a rejection for the id it carries: by its kind when it declares a known
one, else by the letters of the id. -/
def meansRejection (optionId : String) (option : Value) : Bool :=
  match declaredKind option with
  | some kind => rejectingKind kind
  | none => spelledRejection optionId

/-- The answer is read as an entry means it, also from a stored row, and a refusal that the entry
declares is a rejection. -/
structure ReadAs (options : List Value) (optionId : String) (entry : Value) : Prop where
  read : answerIsRejection options optionId = true ↔ meansRejection optionId entry = true
  stored : responseIsRejection (storedOptions options) optionId = true ↔
    meansRejection optionId entry = true
  refused : ∀ kind, declaredKind entry = some kind → rejectingKind kind = true →
    answerIsRejection options optionId = true

/-- The first entry that carries the id has it as its own id; or the first entry whose own id it is
agrees with that one; or there is no such entry and the letters of the id agree with it. -/
inductive OwnOrAgreed (options : List Value) (optionId : String) (first : Value) : Prop
  | own (owned : optionIdOf first = some optionId)
  | agreed (other : Value) (owner : options.find? (names optionId) = some other)
      (agrees : meansRejection optionId other = meansRejection optionId first)
  | spelled (unowned : optionId ∉ options.filterMap optionIdOf)
      (agrees : ∀ kind, declaredKind first = some kind →
        rejectingKind kind = spelledRejection optionId)

section
variable {os : List Value} {oid : String} {op first : Value}

lemma mem_validOptionIds : oid ∈ validOptionIds os ↔ ∃ op ∈ os, carries oid op = true := by
  simp [validOptionIds,carries]

lemma carries_of_names (h : names oid op = true) : carries oid op = true := by
  have hid := names_iff.1 h
  unfold carries
  rcases or_eq_some_iff.1 hid with hre | ⟨_,hre⟩
  · simp [hre]
  · simp [hre]

lemma spelledRejection_eq (oid : String) :
    spelledRejection oid = rejectingKind (mapAcpOptionKind oid) := by
  have hid : (optionIdOf (.dict [(.str "optionId",.str oid)])).getD "" = oid := by
    have hre : Value.getStr "optionId" (.dict [(.str "optionId",.str oid)]) =
      if oid.isEmpty then none else some oid := rfl
    have ho : Value.getStr "option_id" (.dict [(.str "optionId",.str oid)]) = none := rfl
    rw [optionIdOf,hre,ho]
    split_ifs with hem
    · exact (String.isEmpty_iff.1 hem).symm
    · rfl
  rw [spelledRejection,isRejection,optionKind,hid]
  rfl

lemma isRejection_eq (h : optionIdOf op = some oid) : isRejection op = meansRejection oid op := by
  unfold isRejection meansRejection optionKind
  rw [h]
  cases hk : declaredKind op with
  | some ki => rfl
  | none =>
    rw [spelledRejection_eq]
    rfl

lemma find_names_of_carries (h : os.find? (carries oid) = some first)
    (hown : optionIdOf first = some oid) :
    os.find? (names oid) = some first := by
  obtain ⟨_,p,q,rfl,hb⟩ := find?_eq_some_iff_append.1 h
  refine find?_eq_some_iff_append.2 ⟨names_iff.2 hown,p,q,rfl,?_⟩
  intro op ho
  have hc := hb op ho
  rw [Bool.not_eq_true'] at hc ⊢
  rw [Bool.eq_false_iff] at hc ⊢
  exact fun hn => hc (carries_of_names hn)

lemma answerIsRejection_owner (hid : oid.isEmpty = false) : answerIsRejection os oid =
    ((os.find? (names oid)).map (meansRejection oid)).getD (spelledRejection oid) := by
  rw [answerIsRejection_eq hid,declaredRejection,offeredOption]
  cases ho : os.find? (names oid) with
  | none => rfl
  | some ow =>
    rw [map_some,map_some,isRejection_eq (names_iff.1 (find?_some ho))]

lemma unowned_iff : os.find? (names oid) = none ↔ oid ∉ os.filterMap optionIdOf := by
  rw [find?_eq_none]
  constructor
  · intro h hm
    obtain ⟨op,ho,hid⟩ := mem_filterMap.1 hm
    exact h op ho (names_iff.2 hid)
  · intro h op ho hn
    exact h (mem_filterMap.2 ⟨op,ho,names_iff.1 hn⟩)

lemma meansRejection_eq_spelled : spelledRejection oid = meansRejection oid first ↔
    ∀ ki, declaredKind first = some ki → rejectingKind ki = spelledRejection oid := by
  unfold meansRejection
  cases declaredKind first with
  | none => simp
  | some ki => simp [eq_comm]

lemma answerIsRejection_iff (hid : oid.isEmpty = false) (hf : os.find? (carries oid) = some first) :
    answerIsRejection os oid = meansRejection oid first ↔ OwnOrAgreed os oid first := by
  rw [answerIsRejection_owner hid]
  constructor
  · intro ha
    cases ho : os.find? (names oid) with
    | some ow =>
      rw [ho,map_some,getD_some] at ha
      exact .agreed ow ho ha
    | none =>
      rw [ho,map_none,getD_none] at ha
      exact .spelled (unowned_iff.1 ho) (meansRejection_eq_spelled.1 ha)
  · intro h
    cases h with
    | own hown =>
      rw [find_names_of_carries hf hown,map_some,getD_some]
    | agreed o ho ha =>
      rw [ho,map_some,getD_some]
      exact ha
    | spelled hu ha =>
      rw [unowned_iff.2 hu,map_none,getD_none]
      exact meansRejection_eq_spelled.2 ha

end

/-- For every option list and every option id that it admits, the answer is read as the first entry
that carries the id means it, if and only if this entry owns the id, or agrees with what the answer
is judged by instead. -/
theorem readAs_first_iff (options : List Value) (optionId : String)
    (hadmitted : optionId ∈ validOptionIds options) :
    ∃ first, options.find? (carries optionId) = some first ∧
      (ReadAs options optionId first ↔ OwnOrAgreed options optionId first) := by
  have hid := validOptionIds_nonempty hadmitted
  obtain ⟨first,hf⟩ := isSome_iff_exists.1 (find?_isSome.2 (mem_validOptionIds.1 hadmitted))
  refine ⟨first,hf,?_,?_⟩
  · intro h
    exact (answerIsRejection_iff hid hf).1 (Bool.eq_iff_iff.2 h.read)
  · intro h
    have hre := (answerIsRejection_iff hid hf).2 h
    have hs : responseIsRejection (storedOptions options) optionId =
      answerIsRejection options optionId := rfl
    refine ⟨by rw [hre],by rw [hs,hre],?_⟩
    intro kind hk href
    rw [hre,meansRejection,hk]
    exact href

/-- A refusal under the own id of its entry is read as one. -/
theorem readAs_first_stop :
    ReadAs [declaredOption "stop" "reject_once"] "stop" (declaredOption "stop" "reject_once") := by
  obtain ⟨first,hf,hre⟩ := readAs_first_iff [declaredOption "stop" "reject_once"] "stop" (by decide)
  cases hf
  exact hre.2 (.own rfl)

def twoSpellings : Value := .dict [(.str "optionId",.str "no-1"),(.str "option_id",.str "stop"),
    (.str "kind",.str "reject_once")]

/-- The other spelling of a refusal is admitted and read as an approval. -/
theorem refusal_read_as_approval : "stop" ∈ validOptionIds [twoSpellings] ∧
    [twoSpellings].find? (carries "stop") = some twoSpellings ∧
    declaredKind twoSpellings = some .rejectOnce ∧
    answerIsRejection [twoSpellings] "stop" = false ∧
    ¬ ReadAs [twoSpellings] "stop" twoSpellings := by
  refine ⟨by decide,rfl,by decide,by decide,?_⟩
  intro h
  exact absurd (h.refused .rejectOnce rfl rfl) (by decide)

end VaultspecA2A.AnsweredOptions
