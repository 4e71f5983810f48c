import HybridRetrieval.Proofs.Lexeme.Stems
import HybridRetrieval.Proofs.Session.Sharing
/-!
# Queries for other forms of a word

A query that uses a form of a word comes upon the texts that use another form, if both forms have
the same stem and neither is a stop word.  All forms of a regular word have the same stem exactly if
its own last letters are not taken for an ending (`related_forms_found`); of the others some are not
found by some (`string_misses_strings`).
-/

namespace HybridRetrieval

/-- **Texts that use words with one stem** share a lexeme. -/
theorem sharesLexeme_of_usesWord {text other : String} {f g : List Char} (hf : UsesWord text f)
    (hg : UsesWord other g) (hstopF : ¬ IsStopWord f) (hstopG : ¬ IsStopWord g)
    (hstem : stem f = stem g) :
    sharesLexeme (Analyzer.english.lexemes text) (Analyzer.english.lexemes other) = true :=
  sharesLexeme_iff.mpr ⟨_, hf.stem_mem_lexemes hstopF, hstem ▸ hg.stem_mem_lexemes hstopG⟩

/-- **Texts of one word each** share a lexeme exactly if the words have one stem and are no stop
words. -/
theorem sharesLexeme_iff_of_isTextOf {text other : String} {f g : List Char} (hf : IsTextOf text f)
    (hg : IsTextOf other g) :
    sharesLexeme (Analyzer.english.lexemes text) (Analyzer.english.lexemes other) = true ↔
      ¬ IsStopWord f ∧ ¬ IsStopWord g ∧ stem f = stem g := by
  rw [sharesLexeme_iff]
  by_cases hstopF : IsStopWord f
  · simp [hf.lexemes_eq_nil hstopF, hstopF]
  by_cases hstopG : IsStopWord g
  · simp [hg.lexemes_eq_nil hstopG, hstopG]
  rw [hf.lexemes hstopF, hg.lexemes hstopG]
  simp [hstopF, hstopG, String.ofList_inj]

/-- The lexemes of a single word fit into a statement. -/
theorem IsTextOf.length_queryTerms_lt {text : String} {f : List Char} (h : IsTextOf text f) :
    (Analyzer.english.queryTerms text).length < StatementSize.maxValues := by
  have hlexemes : Analyzer.english.lexemes text = [] ∨
      Analyzer.english.lexemes text = [String.ofList (stem f)] := by
    by_cases hstop : IsStopWord f
    · exact .inl (h.lexemes_eq_nil hstop)
    · exact .inr (h.lexemes hstop)
  rcases hlexemes with hnone | hone
  · simp [Analyzer.queryTerms, hnone, StatementSize.maxValues]
  · simp [Analyzer.queryTerms, hone, List.eraseDups_cons, StatementSize.maxValues]

/-- **Related forms of a word.**  All forms of a regular word have the same stem exactly if the last
letters of the word are not taken for an ending.

In any state of a session, through an open hybrid store with the English analyzer whose index is in
step, consider a sparse query without filters and with room for all rows, whose lexemes fit into a
statement, as those of a single word do, and let all rows that share a lexeme with its text be
readable.  If the word is such a word, then a query that uses one of its forms finds each row whose
text uses another, unless one of the two is a stop word.  And for any regular word, the query for
one form finds the text that is another form exactly if both have the same stem and neither is a
stop word. -/
theorem related_forms_found {word : List Char} (hword : IsRegularBase word) :
    ((∀ f ∈ regularForms word, ∀ g ∈ regularForms word, stem f = stem g) ↔ StemsAlike word) ∧
    (∀ text f, IsTextOf text f →
      (Analyzer.english.queryTerms text).length < StatementSize.maxValues) ∧
    ∀ {start s : Session}, start.Fresh → Session.EditedRun start s →
      ∀ {name : String} {handle : Store × Nat}, s.handle? name = some handle →
      ∀ {db : Database}, s.connection handle.2 = some db → handle.1.hybrid = true →
      handle.1.params.analyzer = .english →
      ∃ stored rows, db.table? handle.1.names.data = some (.data stored) ∧
        db.table? handle.1.names.lexemes = some (.lexemes rows) ∧
        (IsIndexOfRows .english stored rows →
          ∀ q text, q.AsksFor text stored.length →
          (Analyzer.english.queryTerms text).length < StatementSize.maxValues →
          (∀ row ∈ stored, row.SharesLexeme .english text → row.IsReadable) →
          ∃ r, handle.1.query q (s.connection handle.2) = .ok r ∧
            ∀ d ∈ stored, ∀ id other, d.nodeId = .text id → d.text = .text other →
            ∀ f ∈ regularForms word, ∀ g ∈ regularForms word,
              (StemsAlike word → UsesWord text f → UsesWord other g →
                ¬ IsStopWord f → ¬ IsStopWord g →
                ∃ node, d.toNode = .ok node ∧ node ∈ r.nodes) ∧
              (IsTextOf text f → IsTextOf other g →
                ((∃ node, d.toNode = .ok node ∧ node ∈ r.nodes) ↔
                  ¬ IsStopWord f ∧ ¬ IsStopWord g ∧ stem f = stem g))) := by
  refine ⟨hword.stem_forms_eq_iff, fun _ _ honly => honly.length_queryTerms_lt, ?_⟩
  intro start s hstart run name handle hhandle db hdb hhybrid henglish
  obtain ⟨stored, rows, hstored, hrows, hfinds⟩ := run.findsSharing hstart hhandle hdb hhybrid
  rw [henglish] at hfinds
  refine ⟨stored, rows, hstored, hrows, fun hindex q text hq hfew hread => ?_⟩
  obtain ⟨r, hr, hlisted⟩ := ((hfinds hindex q text hq).1 hfew).exists_node_iff hread
  refine ⟨r, hr, fun d hd id other hid htext f hf g hg => ?_⟩
  rw [hlisted d hd, DataRow.sharesLexeme_iff_of_text hid htext]
  constructor
  · intro halike huse huse' hstop hstop'
    exact sharesLexeme_of_usesWord huse huse' hstop hstop'
      (hword.stem_forms_eq_iff.mpr halike f hf g hg)
  · exact fun honly honly' => sharesLexeme_iff_of_isTextOf honly honly'

/-- Whoever asks who jumped finds those who are jumping. -/
theorem related_forms_found_jump :
    IsRegularBase "jump".toList ∧
      stem "jumped".toList = stem "jumping".toList ∧
      ∃ r node, (Store.ofAnalyzer .english).query (.sparse "Who jumped?" 1 [])
          ((Session.ofHybrid [.ofText "a" "They are jumping"]).connection 0) = .ok r ∧
        (DataRow.ofItem (.ofText "a" "They are jumping")).toNode = .ok node ∧ node ∈ r.nodes := by
  have hword : IsRegularBase "jump".toList := by decide
  have halike : StemsAlike "jump".toList := ⟨by decide, by decide, by decide⟩
  obtain ⟨hstems, -, hfound⟩ := related_forms_found hword
  have hpast : "jumped".toList ∈ regularForms "jump".toList := by decide
  have hongoing : "jumping".toList ∈ regularForms "jump".toList := by decide
  refine ⟨hword, hstems.mpr halike _ hpast _ hongoing, ?_⟩
  have hhandle : (Session.ofHybrid [.ofText "a" "They are jumping"]).handle? "h" =
    some (.ofAnalyzer .english, 0) := by rfl
  have hdb : (Session.ofHybrid [.ofText "a" "They are jumping"]).connection 0 =
    some (.ofHybrid [.ofText "a" "They are jumping"]) := by rfl
  obtain ⟨stored, rows, hstored, hrows, hfinds⟩ := hfound Session.fresh_empty
    (Session.anyRun_foldl _ _).edited hhandle hdb rfl rfl
  obtain rfl := Table.data.inj (Option.some.inj hstored)
  obtain rfl := Table.lexemes.inj (Option.some.inj hrows)
  have hread : (DataRow.ofItem (.ofText "a" "They are jumping")).IsReadable :=
    ⟨_, DataRow.toNode_ofItem ⟨by decide +kernel, by decide +kernel⟩⟩
  have hindex : IsIndexOfRows .english [.ofItem (.ofText "a" "They are jumping")]
      ((Write.add [.ofText "a" "They are jumping"]).reindex .english [] []) :=
    isIndexOfRows_ofHybrid rfl (List.nodup_singleton _)
  obtain ⟨r, hr, hlisted⟩ := hfinds hindex (.sparse "Who jumped?" 1 []) _
    ⟨rfl, rfl, rfl, le_rfl⟩ (by decide +kernel)
    fun row hrow _ => List.eq_of_mem_singleton hrow ▸ hread
  obtain ⟨node, hnode, hmem⟩ := (hlisted _ (List.mem_singleton_self _) "a" _ rfl rfl _ hpast _
    hongoing).1 halike (by decide +kernel) (by decide +kernel) (by decide +kernel)
    (by decide +kernel)
  exact ⟨r, node, hr, hnode, hmem⟩

/-- The query for a word that ends in `ing` by itself does not find its plural. -/
theorem string_misses_strings :
    IsRegularBase "string".toList ∧
      stem "string".toList = "str".toList ∧ stem "strings".toList = "string".toList ∧
      ∃ r node, (Store.ofAnalyzer .english).query (.sparse "string" 1 [])
          ((Session.ofHybrid [.ofText "a" "strings"]).connection 0) = .ok r ∧
        (DataRow.ofItem (.ofText "a" "strings")).toNode = .ok node ∧ node ∉ r.nodes := by
  have hhandle : (Session.ofHybrid [.ofText "a" "strings"]).handle? "h" =
    some (.ofAnalyzer .english, 0) := by rfl
  have hdb : (Session.ofHybrid [.ofText "a" "strings"]).connection 0 =
    some (.ofHybrid [.ofText "a" "strings"]) := by rfl
  have hsharing : Store.FindsSharing .english [.ofItem (.ofText "a" "strings")] "string"
      ((Store.ofAnalyzer .english).query (.sparse "string" 1 [])
        ((Session.ofHybrid [.ofText "a" "strings"]).connection 0)) :=
    findsSharing_ofHybrid hhandle hdb rfl (List.nodup_singleton _) ⟨rfl, rfl, rfl, le_rfl⟩
      (by decide +kernel)
  have hnode : (DataRow.ofItem (.ofText "a" "strings")).toNode = .ok _ :=
    DataRow.toNode_ofItem ⟨by decide +kernel, by decide +kernel⟩
  obtain ⟨r, hr⟩ := hsharing.succeeds fun row hrow _ => ⟨_, List.eq_of_mem_singleton hrow ▸ hnode⟩
  refine ⟨by decide, by decide, by decide, r, _, hr, hnode, ?_⟩
  rw [hsharing.lists r hr _ (List.mem_singleton_self _) _ hnode,
    DataRow.sharesLexeme_iff_of_text rfl rfl]
  decide +kernel

end HybridRetrieval
