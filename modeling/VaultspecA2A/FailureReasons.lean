import VaultspecA2A.TextReads
import VaultspecA2A.ThreadElections

/-!
# The text of a failure

A run that fails keeps its reason as one line of bounded size. White space is collapsed first:
the words of the text, with a space between any two. A text that is too long is cut before the
character that leaves no room for the mark, and the mark is again the end of a word, so that
what is kept is collapsed already.
-/
namespace VaultspecA2A.FailureReasons
open PyText ThreadElections TextReads List

/-- Words as splitting gives them: none is empty, and none has white space. -/
def Words (ws : List (List Char)) : Prop := ∀ w ∈ ws, w ≠ [] ∧ ∀ c ∈ w, isSpace c = false

def joined (ws : List (List Char)) : List Char := intercalate [' '] ws

lemma words_wordsFrom (cs cur : List Char) (h : ∀ c ∈ cur, isSpace c = false) :
    Words (wordsFrom cs cur) := by
  induction cs generalizing cur with
  | nil =>
    rw [wordsFrom]
    split_ifs with he
    · exact nofun
    · intro w hw
      rw [mem_singleton.1 hw]
      exact ⟨by simpa using he,by simpa using h⟩
  | cons c cs ih =>
    rw [wordsFrom]
    split_ifs with hc he
    · exact ih [] nofun
    · intro w hw
      rcases mem_cons.1 hw with rfl | hw
      · exact ⟨by simpa using he,by simpa using h⟩
      · exact ih [] nofun w hw
    · exact ih _ (forall_mem_cons.2 ⟨by simpa using hc,h⟩)

lemma wordsFrom_append (hw : ∀ c ∈ w, isSpace c = false) (cs cur : List Char) :
    wordsFrom (w ++ cs) cur = wordsFrom cs (w.reverse ++ cur) := by
  induction w generalizing cur with
  | nil => rfl
  | cons c w ih =>
    obtain ⟨hc,hw⟩ := forall_mem_cons.1 hw
    simp [wordsFrom,hc,ih hw]

lemma joined_cons (w v : List Char) (ws : List (List Char)) :
    joined (w :: v :: ws) = w ++ ' ' :: joined (v :: ws) := by
  simp [joined,intercalate]

/-- Splitting what was joined gives the words back. -/
lemma wordsFrom_joined (h : Words ws) : wordsFrom (joined ws) [] = ws := by
  induction ws with
  | nil => rfl
  | cons w ws ih =>
    obtain ⟨⟨hne,hw⟩,hws⟩ := forall_mem_cons.1 h
    cases ws with
    | nil =>
      have hj : joined [w] = w ++ [] := by simp [joined,intercalate]
      rw [hj,wordsFrom_append hw]
      simp [wordsFrom,hne]
    | cons v ws =>
      have hs : isSpace ' ' = true := rfl
      rw [joined_cons,wordsFrom_append hw]
      simp [wordsFrom,hs,hne,ih hws]

/-- A part from the front, followed by a character that is no white space, is joined words. -/
lemma joined_cut (h : Words ws) (hm : isSpace m = false) (hp : cut <+: joined ws) :
    ∃ vs, Words vs ∧ cut ++ [m] = joined vs := by
  have hone : ∀ {cut : List Char}, (∀ c ∈ cut, isSpace c = false) →
      ∃ vs, Words vs ∧ cut ++ [m] = joined vs := fun {cut} hc =>
    ⟨[cut ++ [m]],by simpa [Words,or_imp,forall_and,hm] using hc,by simp [joined,intercalate]⟩
  induction ws generalizing cut with
  | nil =>
    rw [prefix_nil.1 hp]
    exact hone nofun
  | cons w ws ih =>
    obtain ⟨hw,hws⟩ := forall_mem_cons.1 h
    cases ws with
    | nil =>
      rw [show joined [w] = w by simp [joined,intercalate]] at hp
      exact hone fun c hc => hw.2 c (hp.subset hc)
    | cons v ws =>
      obtain ⟨r,hr⟩ := hp
      rw [joined_cons] at hr
      rcases append_eq_append_iff.1 hr with ⟨left,rfl,-⟩ | ⟨left,rfl,hl⟩
      · exact hone fun c hc => hw.2 c (mem_append_left _ hc)
      · cases left with
        | nil => exact hone fun c hc => hw.2 c (by simpa using hc)
        | cons d left =>
          obtain ⟨rfl,hleft⟩ := cons.inj hl
          obtain ⟨vs,hvs,he⟩ := ih hws ⟨r,hleft.symm⟩
          cases vs with
          | nil => simp [joined,intercalate] at he
          | cons u vs =>
            refine ⟨w :: u :: vs,forall_mem_cons.2 ⟨hw,hvs⟩,?_⟩
            rw [joined_cons,← he]
            simp

lemma collapseSpaces_eq (text : String) :
    ∃ ws, Words ws ∧ (collapseSpaces text).toList = joined ws :=
  ⟨_,words_wordsFrom text.toList [] nofun,String.toList_ofList⟩

lemma collapseSpaces_joined (h : Words ws) (ht : text.toList = joined ws) :
    collapseSpaces text = text := by
  rw [collapseSpaces,ht,wordsFrom_joined h]
  exact String.toList_inj.1 (String.toList_ofList.trans ht.symm)

lemma joined_unbroken (h : Words ws) : ∀ c ∈ joined ws, isLineBreak c = false := by
  have hspace : ∀ c, isSpace c = false → isLineBreak c = false := by
    intro c hc
    simp only [isSpace,isLineBreak] at *
    grind
  induction ws with
  | nil => exact nofun
  | cons w ws ih =>
    obtain ⟨hw,hws⟩ := forall_mem_cons.1 h
    have hl := fun c hc => hspace c (hw.2 c hc)
    cases ws with
    | nil => simpa [joined,intercalate] using hl
    | cons v ws =>
      rw [joined_cons]
      exact forall_mem_append.2 ⟨hl,forall_mem_cons.2 ⟨rfl,ih hws⟩⟩

lemma cappedSingleLine_joined (h : Words ws) (ht : text.toList = joined ws)
    (hb : utf8Bytes text.toList ≤ 500) : cappedSingleLine text = text := by
  simp only [cappedSingleLine,collapseSpaces_joined h ht]
  exact if_pos hb

/-- The reason is one line of at most five hundred bytes: the collapsed text if that fits, and
else the longest part from its front that leaves room for the mark, and the mark. Capping it
again changes nothing. -/
theorem cappedSingleLine_spec (text : String) :
    utf8Bytes (cappedSingleLine text).toList ≤ 500 ∧
    (∀ c ∈ (cappedSingleLine text).toList, isLineBreak c = false) ∧
    (utf8Bytes (collapseSpaces text).toList ≤ 500 → cappedSingleLine text = collapseSpaces text) ∧
    (500 < utf8Bytes (collapseSpaces text).toList → ∃ cut : List Char,
      cappedSingleLine text = String.ofList cut ++ "…" ∧ cut <+: (collapseSpaces text).toList ∧
      ∀ other, other <+: (collapseSpaces text).toList →
        utf8Bytes other + utf8Bytes "…".toList ≤ 500 → other <+: cut) ∧
    cappedSingleLine (cappedSingleLine text) = cappedSingleLine text := by
  obtain ⟨ws,hws,hcol⟩ := collapseSpaces_eq text
  have hm : utf8Bytes "…".toList = 3 := rfl
  by_cases hb : utf8Bytes (collapseSpaces text).toList ≤ 500
  · have hr : cappedSingleLine text = collapseSpaces text := by
      rw [cappedSingleLine]
      exact if_pos hb
    rw [hr]
    exact ⟨hb,hcol ▸ joined_unbroken hws,fun _ => rfl,fun hn => (Nat.not_lt.2 hb hn).elim,
      cappedSingleLine_joined hws hcol hb⟩
  · obtain ⟨hp,hle,hmax⟩ := utf8Prefix_longest 497 (collapseSpaces text).toList
    have hr : cappedSingleLine text =
        String.ofList (utf8Prefix 497 (collapseSpaces text).toList) ++ "…" := by
      rw [cappedSingleLine]
      exact if_neg hb
    have hl : (cappedSingleLine text).toList =
        utf8Prefix 497 (collapseSpaces text).toList ++ "…".toList := by
      rw [hr,String.toList_append,String.toList_ofList]
    have hlen : utf8Bytes (cappedSingleLine text).toList ≤ 500 := by
      rw [hl,utf8Bytes,map_append,sum_append]
      exact Nat.add_le_add hle (Nat.le_of_eq hm)
    have hcut : utf8Prefix 497 (collapseSpaces text).toList <+: joined ws := by
      rw [← hcol]
      exact hp
    obtain ⟨vs,hvs,he⟩ := joined_cut hws (show isSpace '…' = false from rfl) hcut
    have hj : (cappedSingleLine text).toList = joined vs := hl.trans he
    refine ⟨hlen,hj ▸ joined_unbroken hvs,fun hn => (hb hn).elim,fun _ => ?_,
      cappedSingleLine_joined hvs hj hlen⟩
    exact ⟨_,hr,hp,fun other ho hn => hmax other ho (by omega)⟩

end VaultspecA2A.FailureReasons
