import SqlLint.Proofs.Linter.Arrangement
import SqlLint.Proofs.Rules.LocalNames
import SqlLint.Proofs.Rules.OutermostTransactions
import SqlLint.Proofs.Rules.ServerNames
import SqlLint.Proofs.Script.Coordinates
import SqlLint.Proofs.Script.Insertion
import SqlLint.Rules.BuiltIn

/-!
# Findings in the order of the tokens

A built-in rule flags tokens in their order and none of them twice, however it comes by them: by
filtering, by looking for the first one, by jumping over names, or at the end of what began there.
Tokens begin at increasing places, so the findings of such a rule stand at increasing places. The
linter sorts by place and leaves them as they are.

The place shown for a token is that of its first byte. No other boundary of the text is shown like
it, and neither a comment nor another token covers that byte.
-/

namespace SqlLint

open String.Pos.Raw (IsValid)

/-- Flags at sites that come in the order of the tokens, each once. -/
def InTokenOrder (flags : List Token → List Flag) : Prop :=
  ∀ tokens, ((flags tokens).map Flag.site).Sublist (Site.all tokens)

namespace InTokenOrder

/-- A rule that filters sites keeps them in order. -/
theorem of_filter (p : Site → Bool) (message : Site → String) :
    InTokenOrder fun tokens => ((Site.all tokens).filter p).map fun s => ⟨s, message s⟩ := by
  intro tokens
  have sites : (((Site.all tokens).filter p).map fun s => (⟨s, message s⟩ : Flag)).map Flag.site =
      (Site.all tokens).filter p := by
    simp [Function.comp_def]
  rw [sites]
  exact List.filter_sublist

theorem flagWhere (message : String) (p : Site → Bool) : InTokenOrder (flagWhere message p) :=
  of_filter p fun _ => message

end InTokenOrder

namespace Rules

theorem SessionOption.inTokenOrder_flags (o : SessionOption) : InTokenOrder o.flags := by
  intro tokens
  rw [SessionOption.flags]
  split
  · exact List.nil_sublist _
  next s found =>
    split
    · exact List.nil_sublist _
    · exact List.singleton_sublist.mpr (List.mem_of_find?_eq_some found)

theorem LinkedServer.inTokenOrder_scan : InTokenOrder fun tokens => scan (Site.all tokens) := by
  have tests : (fun tokens => scan (Site.all tokens)) = _ := funext scan_all
  rw [tests]
  exact .flagWhere _ _

theorem Transaction.inTokenOrder_scan : InTokenOrder fun tokens => scan none (Site.all tokens) :=
  fun _ => sublist_scan

namespace SchemaQualification

variable {s : Site} {r : Reference}

/-- The reference that a keyword introduces begins at the next site. -/
theorem following_of_introducedBy? (introduced : Reference.introducedBy? s = some r) :
    ∃ later, Site.following (s.token :: s.before) s.after = r.site :: later := by
  obtain ⟨_, _, after, before, _⟩ := introducedBy?_eq_some_iff.mp introduced
  rw [after, ← before]
  exact ⟨_, rfl⟩

/-- Each keyword has a site of its own behind it, so references come in the order of their
keywords. -/
theorem sublist_references (before tokens : List Token) :
    (((Site.following before tokens).filterMap Reference.introducedBy?).map Reference.site).Sublist
      (Site.following before tokens).tail := by
  induction tokens generalizing before with
  | nil => exact .slnil
  | cons t tokens ih =>
      have later := ih (t :: before)
      rw [Site.following, List.filterMap_cons, List.tail_cons]
      cases introduced : Reference.introducedBy? ⟨before, t, tokens⟩ with
      | none => exact later.trans (List.tail_sublist _)
      | some r =>
          obtain ⟨others, next⟩ := following_of_introducedBy? introduced
          dsimp only at next
          rw [next] at later ⊢
          exact later.cons_cons r.site

theorem sublist_flags (locals : List String) (references : List Reference) :
    ((references.filterMap (flag? locals)).map Flag.site).Sublist
      (references.map Reference.site) := by
  induction references with
  | nil => exact .slnil
  | cons r references ih =>
      rw [List.filterMap_cons]
      cases flagged : flag? locals r with
      | none => exact ih.cons r.site
      | some f =>
          rw [List.map_cons, List.map_cons, site_of_flag? flagged]
          exact ih.cons_cons r.site

theorem inTokenOrder_flags : InTokenOrder flags := fun tokens =>
  ((sublist_flags _ _).trans (sublist_references [] tokens)).trans (List.tail_sublist _)

end SchemaQualification

/-- Every built-in rule flags tokens in their order, each once. -/
theorem exists_inTokenOrder {r : Rule} (member : r ∈ builtIn) :
    ∃ flags, InTokenOrder flags ∧ r = .ofFlags r.toDescriptor flags := by
  simp only [builtIn, List.mem_cons, List.not_mem_nil, or_false] at member
  rcases member with rfl | rfl | rfl | rfl | rfl | rfl | rfl | rfl | rfl | rfl | rfl | rfl | rfl |
    rfl | rfl | rfl | rfl | rfl
  · exact ⟨_, Transaction.inTokenOrder_scan, rfl⟩
  · exact ⟨_, .of_filter _ _, rfl⟩
  · exact ⟨_, .flagWhere _ _, rfl⟩
  · exact ⟨_, .flagWhere _ _, rfl⟩
  · exact ⟨_, .flagWhere _ _, rfl⟩
  · exact ⟨_, .of_filter _ _, rfl⟩
  · exact ⟨_, LinkedServer.inTokenOrder_scan, rfl⟩
  · exact ⟨_, .flagWhere _ _, rfl⟩
  · exact ⟨_, .flagWhere _ _, rfl⟩
  · exact ⟨_, SchemaQualification.inTokenOrder_flags, rfl⟩
  · exact ⟨_, .flagWhere _ _, rfl⟩
  · exact ⟨_, SessionOption.inTokenOrder_flags _, rfl⟩
  · exact ⟨_, SessionOption.inTokenOrder_flags _, rfl⟩
  · exact ⟨_, SessionOption.inTokenOrder_flags _, rfl⟩
  · exact ⟨_, SessionOption.inTokenOrder_flags _, rfl⟩
  · exact ⟨_, .flagWhere _ _, rfl⟩
  · exact ⟨_, .flagWhere _ _, rfl⟩
  · exact ⟨_, .flagWhere _ _, rfl⟩

end Rules

namespace Script

open Lexeme

variable {s : Script} {pieces : List (LexemeKind × List Char)} {t u : Token}

/-- A lexeme begins at the place of its offset. -/
theorem Laid.placeAt_start {l : Lexeme} (h : s.Laid pieces) (member : l ∈ s.lexemes) :
    s.placeAt l.start.offset = l.start := by
  rw [h.lexemes] at member
  obtain ⟨before, after, split, start⟩ := mem_placed member
  have whole := h.split.eq_append
  have front : s.text.toList = before.flatMap (·.2) ++ (l.text ++ after.flatMap (·.2)) := by
    simp [whole, split]
  have offset : l.start.offset = (utf8 (before.flatMap (·.2))).length := by
    simp [start, Position.start]
  rw [placeAt, front, offset, upTo_append, start]

theorem Laid.placeAt_token (h : s.Laid pieces) (member : t ∈ s.tokens) :
    s.placeAt t.start.offset = t.start := by
  obtain ⟨l, inside, _, start, _⟩ := exists_lexeme member
  rw [← start]
  exact h.placeAt_start inside

theorem Laid.isValid_token (h : s.Laid pieces) (member : t ∈ s.tokens) :
    IsValid s.text ⟨t.start.offset⟩ :=
  (h.tiled.boundaries t.span (List.mem_append_left _ (List.mem_map_of_mem member))).1

theorem Laid.locate_token (h : s.Laid pieces) (member : t ∈ s.tokens) :
    s.locate t.start.offset = t.start.place := by
  rw [locate_of_isValid (h.isValid_token member), h.placeAt_token member]
  rfl

end Script

/-- A token at which a finding stands. The finding shows the place of the first byte of the token;
no other boundary of the text is shown like it, and neither a comment nor another token covers that
byte. -/
structure Finding.AtToken (f : Finding) (s : Script) (t : Token) : Prop where
  member : t ∈ s.tokens
  place : t.start.place = (f.line, f.column)
  shown : s.locate t.start.offset = (f.line, f.column)
  only : ∀ i, IsValid s.text ⟨i⟩ → s.locate i = (f.line, f.column) → i = t.start.offset
  noComment : ∀ range ∈ s.comments, ¬ (range.1 ≤ t.start.offset ∧ t.start.offset < range.2)
  noOther : ∀ u ∈ s.tokens, u.span.1 ≤ t.start.offset → t.start.offset < u.span.2 → u = t

section Placed

variable {s : Script} {pieces : List (LexemeKind × List Char)} {t : Token} {f : Finding}

theorem Finding.AtToken.of_laid (h : s.Laid pieces) (member : t ∈ s.tokens)
    (place : t.start.place = (f.line, f.column)) : f.AtToken s t where
  member := member
  place := place
  shown := (h.locate_token member).trans place
  only i valid same := by
    refine Script.eq_of_locate_eq valid (h.isValid_token member) ?_
    rw [same, h.locate_token member, place]
  noComment range comment covers := by
    have full := h.tiled.nonempty t.span (List.mem_append_left _ (List.mem_map_of_mem member))
    have apart := h.tiled.disjoint t member range comment
    simp only [Token.span] at full apart
    omega
  noOther u other low high := by
    obtain ⟨a, ha, found, _⟩ := Script.exists_lexeme member
    obtain ⟨b, hb, found', _⟩ := Script.exists_lexeme other
    by_contra different
    have apart : b.range.2 ≤ a.range.1 ∨ a.range.2 ≤ b.range.1 := by
      refine h.apart hb ha ?_
      rintro rfl
      exact different (Option.some.inj (found'.symm.trans found))
    have full := h.range_lt ha
    rw [← Lexeme.span_of_token? found, ← Lexeme.span_of_token? found'] at apart
    rw [← Lexeme.span_of_token? found] at full
    simp only [Token.span] at low high full apart
    omega

variable {flags : List Token → List Flag}

theorem InTokenOrder.sublist_tokens (inOrder : InTokenOrder flags) (tokens : List Token) :
    ((flags tokens).map (·.site.token)).Sublist tokens := by
  have sites := (inOrder tokens).map Site.token
  rwa [List.map_map, Site.all, Site.map_token_following] at sites

theorem InTokenOrder.pairwise_check (inOrder : InTokenOrder flags) (h : s.Laid pieces)
    (d : Descriptor) : ((Rule.ofFlags d flags).check s).Pairwise (·.place < ·.place) := by
  have increasing := h.pairwise_tokens.sublist (inOrder.sublist_tokens s.tokens)
  rw [List.pairwise_map] at increasing
  rw [Rule.check, List.pairwise_map, Rule.ofFlags, List.pairwise_map]
  exact increasing.imp Prod.Lex.toLex_lt_toLex.mpr

theorem InTokenOrder.exists_atToken (inOrder : InTokenOrder flags) (h : s.Laid pieces)
    (d : Descriptor) : ∀ f ∈ (Rule.ofFlags d flags).check s, ∃ t, f.AtToken s t := by
  intro f member
  obtain ⟨remark, remarked, rfl⟩ := List.mem_map.mp member
  obtain ⟨flag, flagged, rfl⟩ := List.mem_map.mp remarked
  have token : flag.site.token ∈ s.tokens :=
    (inOrder.sublist_tokens s.tokens).subset (List.mem_map_of_mem flagged)
  exact ⟨flag.site.token, .of_laid h token rfl⟩

end Placed

namespace Linter

variable {rules : List Rule} {rule : Rule} {config : Configuration} {s : Script}

theorem pairwise_findingsOf (config : Configuration)
    (increasing : (rule.check s).Pairwise (·.place < ·.place)) :
    (findingsOf config s rule).Pairwise (·.place < ·.place) := by
  rw [findingsOf]
  split
  · rw [List.pairwise_map]
    exact increasing
  · exact .nil

/-- The findings that carry an identifier are those of the rules with it, sorted. -/
theorem filter_rule_findings (rules : List Rule) (config : Configuration) (s : Script)
    (id : String) : (findings rules config s).filter (·.rule = id) =
      findings (rules.filter (·.id = id)) config s := by
  have own (rule : Rule) : (findingsOf config s rule).filter (·.rule = id) =
      if rule.id = id then findingsOf config s rule else [] := by
    split
    case isTrue same =>
      refine List.filter_eq_self.mpr fun f member => ?_
      simp [rule_of_mem_findingsOf member, same]
    case isFalse other =>
      refine List.filter_eq_nil_iff.mpr fun f member => ?_
      simp [rule_of_mem_findingsOf member, other]
  have picked : (rules.flatMap (findingsOf config s)).filter (·.rule = id) =
      (rules.filter (·.id = id)).flatMap (findingsOf config s) := by
    induction rules with
    | nil => rfl
    | cons rule rules ih =>
        rw [List.flatMap_cons, List.filter_append, own, ih]
        by_cases same : rule.id = id <;> simp [same]
  rw [findings, findings, Finding.placedBefore_eq, List.filter_mergeSort_key, picked]

/-- Sorting keeps findings that are in order already as they are, wherever those of other rules
end up among them. -/
theorem findingsOf_sublist_findings (member : rule ∈ rules)
    (increasing : (findingsOf config s rule).Pairwise (·.place < ·.place)) :
    (findingsOf config s rule).Sublist (findings rules config s) := by
  rw [findings, Finding.placedBefore_eq]
  refine List.sublist_mergeSort (List.key_le_trans _) (List.key_le_total _) ?_ ?_
  · exact increasing.imp fun below => decide_eq_true below.le
  · exact List.sublist_flatten_of_mem (List.mem_map_of_mem member)

theorem findings_singleton (increasing : (findingsOf config s rule).Pairwise (·.place < ·.place)) :
    findings [rule] config s = findingsOf config s rule := by
  rw [findings, List.flatMap_singleton, Finding.placedBefore_eq]
  exact List.mergeSort_of_pairwise (increasing.imp fun below => decide_eq_true below.le)

end Linter

/-- The findings of a built-in rule in a script stand at increasing places, each at the place of a
token; so no two stand at one place, and none in a comment or inside of a token. What surfaces of
them from an analysis is in the same order: among all findings of the file they come in the order in
which the rule makes them, and if no other rule has its identifier, they are all those with it. -/
theorem findings_in_token_order {r : Rule} (member : r ∈ Rules.builtIn) {path root text : String}
    {level : UInt32} {s : Script} (made : Script.ofText path root level text = .ok s) :
    (r.check s).Pairwise (·.place < ·.place) ∧ (∀ f ∈ r.check s, ∃ t, f.AtToken s t) ∧
    ∀ (fs : FileSystem) (l : Linter) (config : Configuration),
      l.root = root → config.level = level → fs.read path = .ok text →
      ∃ found, l.analyze fs path config = .ok found ∧
        (r ∈ l.rules → (Linter.findingsOf config s r).Sublist found) ∧
        (l.rules.filter (·.id = r.id) = [r] →
          found.filter (·.rule = r.id) = Linter.findingsOf config s r) := by
  obtain ⟨flags, inOrder, same⟩ := Rules.exists_inTokenOrder member
  obtain ⟨pieces, laid⟩ := Script.exists_laid made
  have increasing : (r.check s).Pairwise (·.place < ·.place) := by
    rw [same]
    exact inOrder.pairwise_check laid r.toDescriptor
  refine ⟨increasing, ?_, ?_⟩
  · rw [same]
    exact inOrder.exists_atToken laid r.toDescriptor
  · rintro fs l config rfl rfl readable
    have surfaces := Linter.pairwise_findingsOf config increasing
    refine ⟨Linter.findings l.rules config s, ?_, ?_, ?_⟩
    · simp only [Linter.analyze, readable, made]
    · intro active
      exact Linter.findingsOf_sublist_findings active surfaces
    · intro alone
      rw [Linter.filter_rule_findings, alone, Linter.findings_singleton surfaces]

/-- Tables that lack a schema, one with a newline in its name, and stars, among comments and
characters of two bytes. -/
def unqualifiedTables : FileSystem where
  kind _ := .file
  read path :=
    if path = "q.sql" then .ok "SELECT é, * /* * */ FROM ü\nJOIN [ö\n*ä] x ON 1 = 1 JOIN t"
    else .error .notFound
  walk _ := .error .notFound

theorem findings_in_token_order_of_unqualifiedTables : ∃ found s,
    (Linter.base "" Rules.builtIn).analyze unqualifiedTables "q.sql" ⟨.empty, 120, [], none⟩ =
      .ok found ∧
    found.filter (·.rule = "schema-qualify") =
      Linter.findingsOf ⟨.empty, 120, [], none⟩ s Rules.schemaQualify ∧
    (Rules.schemaQualify.check s).map (fun f => (f.line, f.column)) = [(1, 26), (2, 6), (3, 21)] ∧
    (Rules.schemaQualify.check s).Pairwise (·.place < ·.place) ∧
    ∀ f ∈ Rules.schemaQualify.check s, ∃ t, f.AtToken s t := by
  obtain ⟨s, made, places⟩ : ∃ s, Script.ofText "q.sql" "" 120
      "SELECT é, * /* * */ FROM ü\nJOIN [ö\n*ä] x ON 1 = 1 JOIN t" = .ok s ∧
        (Rules.schemaQualify.check s).map (fun f => (f.line, f.column)) =
          [(1, 26), (2, 6), (3, 21)] := by
    refine ⟨_, by cbv, ?_⟩
    decide +kernel
  have member : Rules.schemaQualify ∈ Rules.builtIn := by simp [Rules.builtIn]
  obtain ⟨increasing, tokens, surfaces⟩ := findings_in_token_order member made
  obtain ⟨found, analyzed, _, alone⟩ := surfaces unqualifiedTables (.base "" Rules.builtIn)
    ⟨.empty, 120, [], none⟩ rfl rfl rfl
  exact ⟨found, s, analyzed, alone rfl, places, increasing, tokens⟩

end SqlLint
