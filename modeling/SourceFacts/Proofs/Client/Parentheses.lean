import SourceFacts.Proofs.Client.Changed
import SourceFacts.Proofs.File.NestedWith

/-!
# Parentheses in addresses

Parentheses around an expression are looked through where it spells a string. A sum or a call of
`format` is not found behind them, and neither is the member `format` itself: there the path of the
address is lost. In a placeholder of a string they are part of the path, as all that is written in it.
Nothing else of a request depends on them.
-/

namespace SourceFacts

open StringText

namespace Node

/-- The node in another role. -/
def inRole (role : Option String) (n : Node) : Node :=
  .node { n.label with field := role } n.children

/-- The parentheses of the second source hold the expression of the first one, and have its role. -/
structure Encloses (src src' : Source) (p e : Node) : Prop where
  kind : p.kind = "parenthesized_expression"
  named : p.label.isNamed = true
  role : p.field = e.field
  inner : ∃ inner, p.contents = [inner] ∧ WrittenAlike src src' e (inner.inRole e.field)

/-- The node is an expression: no list of arguments, and no argument that is spread or given for a
keyword. -/
structure IsExpression (e : Node) : Prop where
  content : e.isContent = true
  kind : e.kind ∉ passedKinds
  role : e.field ≠ some "arguments"

/-- The first node is the expression, and the second one holds it in parentheses. -/
def PutInParens (src src' : Source) (e n p : Node) : Prop :=
  n = e ∧ p.Encloses src src' e

/-- The nodes are written alike, but for parentheses around one expression at most. The expression does not
stand in a literal. -/
abbrev Bracketed (src src' : Source) (e : Node) : Node → Node → Prop :=
  Changed src src' (PutInParens src src' e)

/-- The literals are written alike, but for what stands in one placeholder. Their quotes are nodes of their
own; a literal without such nodes is read off its text. -/
structure Refilled (src src' : Source) (c c' n n' : Node) : Prop where
  kind : n.kind = "string"
  kind' : n'.kind = "string"
  field : n'.field = n.field
  role : n.field ≠ some "arguments"
  named : n'.label.isNamed = n.label.isNamed
  marked : n.hasChild "string_start" = true
  placeholder : c.kind = "interpolation"
  placeholder' : c'.kind = "interpolation"
  split : ∃ before before' after after', n.children = before ++ c :: after ∧
    n'.children = before' ++ c' :: after' ∧ areWrittenAlike src src' before before' = true ∧
    areWrittenAlike src src' after after' = true

end Node

open Node

section Read

variable {src src' : Source} {e p n n' c c' : Node}

/-! ## Expressions in parentheses -/

theorem stringText?_encloses (h : p.Encloses src src' e) :
    stringText? src' p = stringText? src e := by
  obtain ⟨inner, hinner, halike⟩ := h.inner
  rw [stringText?_inParens h.kind hinner, ← stringText?_writtenAlike halike]
  exact stringText?_congr rfl (fun _ => rfl) rfl

/-- The text is unchanged, or it is lost for a reason. -/
def Lost (reason : Prop) (t t' : Option StringText) : Prop :=
  t' = t ∨ t' = none ∧ reason

/-- Parentheses hide the expression from the reader of addresses: it is the function of a call, or it has
a path and spells no string. -/
def HiddenByParens (src : Source) (e : Node) : Prop :=
  e.field = some "function" ∨
    (∀ t, ¬ Spells src e t) ∧ addressPath src (some e) ≠ (none, .unresolved)

theorem addressText?_parens (hkind : p.kind = "parenthesized_expression") :
    addressText? src p = stringText? src p := by
  have hsum : p.isSum src = false := by rw [isSum, hkind]; rfl
  rw [addressText?_of_not_sum hsum, formatText?_of_kind (by rw [hkind]; decide), Option.or_none]

theorem addressText?_encloses (h : p.Encloses src src' e) :
    Lost (HiddenByParens src e) (addressText? src e) (addressText? src' p) := by
  rw [addressText?_parens h.kind, stringText?_encloses h]
  cases hstring : stringText? src e with
  | some t => exact Or.inl (addressText?_of_string hstring).symm
  | none =>
      cases htext : addressText? src e with
      | none => exact Or.inl rfl
      | some t =>
          refine Or.inr ⟨rfl, Or.inr ⟨stringText?_eq_none_iff.mp hstring, ?_⟩⟩
          simp [addressPath_of_some htext]

theorem formatted?_of_kind (h : n.kind ≠ "attribute") : n.formatted? src = none :=
  if_neg fun hformat => h hformat.1

/-- Parentheses change no string, and at most they hide an address. -/
theorem readAs_putInParens (he : e.IsExpression) :
    ReadAs src src' (PutInParens src src' e) (fun t t' => t' = t) (Lost (HiddenByParens src e)) where
  field := fun _ _ h => h.1 ▸ h.2.role
  isContent := by
    rintro n p ⟨rfl, hp⟩
    rw [he.content, isContent, hp.named, hp.kind]
    rfl
  passed := by
    rintro n p ⟨rfl, hp⟩
    exact ⟨he.kind, by rw [hp.kind]; decide⟩
  role := fun _ _ h => h.1 ▸ he.role
  ofString := by
    rintro n p ⟨rfl, hp⟩
    exact stringText?_encloses hp
  ofAddress := by
    rintro n p ⟨rfl, hp⟩
    exact addressText?_encloses hp
  ofFunction := by
    rintro n p ⟨rfl, hp⟩ hrole
    exact Or.inr ⟨formatted?_of_kind (by rw [hp.kind]; decide), Or.inl hrole⟩
  refl := fun _ => rfl
  isSome := fun _ _ h => by rw [h]
  joined := fun _ _ _ _ h => by rw [h]
  weaken := fun _ _ h => Or.inl h
  template := fun _ _ h => Or.inl (by rw [h])
  added := by
    rintro before after t t' (rfl | ⟨rfl, hreason⟩)
    · exact Or.inl rfl
    · exact Or.inr ⟨all?_eq_none (by simp), hreason⟩

theorem stringText?_bracketed (he : e.IsExpression) (h : Bracketed src src' e n n') :
    stringText? src' n' = stringText? src n := by
  have hstring := stringText?_changed (readAs_putInParens he) h
  exact hstring

/-! ## Placeholders -/

/-- The text is unchanged, or one part of it stands in the place of another one. -/
def Respelled (part part' : StringText) (t t' : Option StringText) : Prop :=
  t' = t ∨ ∃ u v : StringText, t = some (u.append (part.append v)) ∧ t' = some (u.append (part'.append v))

theorem Respelled.among {part part' : StringText} {t t' : Option StringText}
    (h : Respelled part part' t t') (before after : List (Option StringText)) :
    Respelled part part' (all? (before ++ t :: after)) (all? (before ++ t' :: after)) := by
  rcases h with rfl | ⟨u, v, rfl, rfl⟩
  · exact Or.inl rfl
  rw [all?_append, all?_append, all?, all?]
  cases all? before with
  | none => exact Or.inl rfl
  | some b =>
      cases all? after with
      | none => exact Or.inl rfl
      | some a =>
          refine Or.inr ⟨b.append u, v.append a, ?_, ?_⟩ <;>
            simp [StringText.append_assoc]

/-- What some children of a literal spell. -/
def piecesText (src : Source) (cs : List Node) : StringText :=
  ⟨String.join ((cs.filter fun c => c.kind != "string_start" && c.kind != "string_end").map src.text),
    cs.any fun c => c.kind == "interpolation"⟩

theorem piecesText_append (cs ds : List Node) :
    piecesText src (cs ++ ds) = (piecesText src cs).append (piecesText src ds) := by
  simp [piecesText, StringText.append, String.join_append]

theorem piecesText_placeholder (h : c.kind = "interpolation") (cs : List Node) :
    piecesText src (c :: cs) = StringText.append ⟨src.text c, true⟩ (piecesText src cs) := by
  simp [piecesText, StringText.append, h, String.join_cons]

theorem piecesText_writtenAlike {cs cs' : List Node} (h : List.Forall₂ (WrittenAlike src src') cs cs') :
    piecesText src' cs' = piecesText src cs := by
  have hpieces := map_eq_of_related (filter_related h
    (p := fun c => c.kind != "string_start" && c.kind != "string_end")
    (q := fun c => c.kind != "string_start" && c.kind != "string_end") fun c c' hc => by rw [hc.kind])
    (f := src.text) (g := src'.text) fun c c' hc => hc.text
  have hplaceholder := any_eq_of_related h (p := fun c => c.kind == "interpolation")
    (q := fun c => c.kind == "interpolation") fun c c' hc => by rw [hc.kind]
  rw [piecesText, piecesText, hpieces, hplaceholder]

theorem stringText?_pieces (hkind : n.kind = "string") (hmark : n.hasChild "string_start" = true) :
    stringText? src n = some (piecesText src n.children) :=
  (Spells.marked hkind hmark).stringText?

/-- What is written in the literal before and after a placeholder is the same. -/
theorem stringText?_refilled (h : Refilled src src' c c' n n') :
    Respelled ⟨src.text c, true⟩ ⟨src'.text c', true⟩ (stringText? src n) (stringText? src' n') := by
  obtain ⟨before, before', after, after', hn, hn', hbefore, hafter⟩ := h.split
  have hbefore := forall₂_of_areWrittenAlike hbefore
  have hafter := forall₂_of_areWrittenAlike hafter
  have hkinds : List.Forall₂ (fun c c' : Node => c'.kind = c.kind) n.children n'.children := by
    rw [hn, hn']
    exact List.rel_append (hbefore.imp fun _ _ hc => hc.kind)
      (.cons (h.placeholder'.trans h.placeholder.symm) (hafter.imp fun _ _ hc => hc.kind))
  have hmark : n'.hasChild "string_start" = true :=
    (any_eq_of_related hkinds fun c c' hc => by rw [hc]).trans h.marked
  refine Or.inr ⟨piecesText src before, piecesText src after, ?_, ?_⟩
  · rw [stringText?_pieces h.kind h.marked, hn, piecesText_append, piecesText_placeholder h.placeholder]
  · rw [stringText?_pieces h.kind' hmark, hn', piecesText_append, piecesText_placeholder h.placeholder',
      piecesText_writtenAlike hbefore, piecesText_writtenAlike hafter]

theorem readAs_refilled :
    ReadAs src src' (Refilled src src' c c') (Respelled ⟨src.text c, true⟩ ⟨src'.text c', true⟩)
      (Respelled ⟨src.text c, true⟩ ⟨src'.text c', true⟩) where
  field := fun _ _ h => h.field
  isContent := fun _ _ h => by rw [isContent, isContent, h.named, h.kind, h.kind']
  passed := fun _ _ h => ⟨by rw [h.kind]; decide, by rw [h.kind']; decide⟩
  role := fun _ _ h => h.role
  ofString := fun _ _ => stringText?_refilled
  ofAddress := fun n n' h => by
    have hstring := stringText?_refilled h
    rw [stringText?_string h.kind, stringText?_string h.kind'] at hstring
    rwa [addressText?_of_string (stringText?_string h.kind),
      addressText?_of_string (stringText?_string h.kind')]
  ofFunction := fun n n' h _ => by
    rw [formatted?_of_kind (by rw [h.kind]; decide), formatted?_of_kind (by rw [h.kind']; decide)]
    exact Or.inl rfl
  refl := fun _ => Or.inl rfl
  isSome := by
    rintro t t' (rfl | ⟨u, v, rfl, rfl⟩)
    · rfl
    · rfl
  joined := fun before after _ _ h => h.among before after
  weaken := fun _ _ h => h
  template := by
    rintro t t' (rfl | ⟨u, v, rfl, rfl⟩)
    · exact Or.inl rfl
    · exact Or.inr ⟨{ u with isTemplate := true }, v, rfl, rfl⟩
  added := fun before after _ _ h => h.among before after

/-! ## Addresses and requests -/

theorem addressPath_bracketed (he : e.IsExpression) {a a' : Option Node}
    (h : Option.Rel (Bracketed src src' e) a a') :
    addressPath src' a' = addressPath src a ∨
      addressPath src' a' = (none, .unresolved) ∧ HiddenByParens src e := by
  cases h with
  | none => exact Or.inl (by rw [addressPath, addressPath, Option.bind_none, Option.bind_none])
  | some h =>
      rcases addressText?_changed (readAs_putInParens he) h with hsame | ⟨hnone, hhidden⟩
      · exact Or.inl (by simp only [addressPath, Option.bind_some, hsame])
      · exact Or.inr ⟨addressPath_of_none hnone, hhidden⟩

/-- The path is unchanged, or it is that of a template in which one text stands in the place of another. -/
def PathRespelled (part part' : String) (path path' : Option String × PathKind) : Prop :=
  path' = path ∨
    ∃ u v, path = (some (u ++ part ++ v), .template) ∧ path' = (some (u ++ part' ++ v), .template)

theorem addressPath_refilled {a a' : Option Node}
    (h : Option.Rel (Changed src src' (Refilled src src' c c')) a a') :
    PathRespelled (src.text c) (src'.text c') (addressPath src a) (addressPath src' a') := by
  cases h with
  | none => exact Or.inl (by rw [addressPath, addressPath, Option.bind_none, Option.bind_none])
  | some h =>
      rcases addressText?_changed readAs_refilled h with hsame | ⟨u, v, htext, htext'⟩
      · exact Or.inl (by simp only [addressPath, Option.bind_some, hsame])
      · refine Or.inr ⟨u.content, v.content, ?_, ?_⟩
        · simp [addressPath_of_some htext, StringText.append, String.append_assoc]
        · simp [addressPath_of_some htext', StringText.append, String.append_assoc]

/-- The request as it is reported where nothing is known of its path. -/
def Request.unresolved (r : Request) : Request :=
  { r with path := none, pathKind := "unresolved" }

/-- The request with another path. -/
def Request.at (r : Request) (path : Option String × PathKind) : Request :=
  { r with path := path.1, pathKind := path.2.name }

/-- The request is unchanged, or its path is lost for a reason. -/
def PathLost (reason : Prop) (r r' : Option Request) : Prop :=
  r' = r ∨ reason ∧ ∃ q, r = some q ∧ r' = some q.unresolved

theorem requestAt?_bracketed (he : e.IsExpression)
    (h : ChangedArguments src src' (PutInParens src src' e) n n') (config : Config)
    (module function : String) :
    PathLost (HiddenByParens src e) (requestAt? src config module function (n.callArguments src))
      (requestAt? src' config module function (n'.callArguments src')) := by
  have hargs := callArguments_changed (readAs_putInParens he) h
  have hmethod := methodText?_related (fun _ _ => stringText?_bracketed he) hargs
  have hrequest := requestAt?_related (S := fun r r' => r' = r ∨ HiddenByParens src e ∧ r' = r.unresolved)
    (option_related_imp (requestOf?_related hargs config function (.inr hmethod)) fun r r' hr library => by
      unfold Request.to
      rw [hr.1]
      rcases addressPath_bracketed he hr.2 with hsame | ⟨hlost, hhidden⟩
      · exact Or.inl (by rw [hsame])
      · exact Or.inr ⟨hhidden, by rw [hlost]; rfl⟩) module
  revert hrequest
  generalize requestAt? src config module function (n.callArguments src) = found
  generalize requestAt? src' config module function (n'.callArguments src') = found'
  intro hrequest
  cases hrequest with
  | none => exact Or.inl rfl
  | some hr =>
      rcases hr with hsame | ⟨hhidden, hlost⟩
      · exact Or.inl (congrArg some hsame)
      · exact Or.inr ⟨hhidden, _, rfl, congrArg some hlost⟩

theorem requestAt?_refilled (h : ChangedArguments src src' (Refilled src src' c c') n n')
    (config : Config) (module function : String)
    (hmethod : config.httpClientMethods.has function = true ∨
      (n'.callArguments src').methodText? src' = (n.callArguments src).methodText? src) :
    Option.Rel (fun r r' => ∃ path path', PathRespelled (src.text c) (src'.text c') path path' ∧
        r = r.at path ∧ r' = r.at path')
      (requestAt? src config module function (n.callArguments src))
      (requestAt? src' config module function (n'.callArguments src')) := by
  refine requestAt?_related (option_related_imp (requestOf?_related
    (callArguments_changed readAs_refilled h) config function hmethod) fun r r' hr library => ?_) module
  refine ⟨_, _, addressPath_refilled hr.2, rfl, ?_⟩
  rw [Request.to, hr.1]
  rfl

end Read

/-- Parentheses around an expression change no path, unless it is a sum or a call of `format` with a path;
then nothing is known of it. So an expression that is put in parentheses anywhere in an address, or in
the arguments of a call, but not in a literal, leaves the path and the request as they are, unless it is one
of these or the function of a call; and then at most the path is lost. What is changed in a placeholder of a
literal, by parentheses or otherwise, is changed in the path: the text of the placeholder is part of it, and
nothing else of the path or of the request is changed. -/
theorem parentheses_keep_strings (src : Source) :
    (∀ e p : Node, p.kind = "parenthesized_expression" → p.contents = [e] →
      ((∃ t, Spells src e t) ∨ addressPath src (some e) = (none, .unresolved) →
        addressPath src (some p) = addressPath src (some e)) ∧
      ((∀ t, ¬ Spells src e t) → addressPath src (some p) = (none, .unresolved))) ∧
    (∀ (src' : Source) (e : Node), e.IsExpression →
      (∀ n n', Bracketed src src' e n n' →
        addressPath src' (some n') = addressPath src (some n) ∨
          addressPath src' (some n') = (none, .unresolved) ∧ HiddenByParens src e) ∧
      ∀ (config : Config) (module function : String) (c c' : CallSite) (n n' : Node),
        c.Targets module function → c'.Targets module function →
        ChangedArguments src src' (PutInParens src src' e) n n' →
          PathLost (HiddenByParens src e) ((c.clientCall? src config n).map ClientCall.request)
            ((c'.clientCall? src' config n').map ClientCall.request)) ∧
    ∀ (src' : Source) (hole hole' : Node),
      (∀ n n', Changed src src' (Refilled src src' hole hole') n n' →
        PathRespelled (src.text hole) (src'.text hole') (addressPath src (some n))
          (addressPath src' (some n'))) ∧
      ∀ (config : Config) (module function : String) (c c' : CallSite) (n n' : Node),
        c.Targets module function → c'.Targets module function →
        ChangedArguments src src' (Refilled src src' hole hole') n n' →
        (config.httpClientMethods.has function = true ∨
          (n'.callArguments src').methodText? src' = (n.callArguments src).methodText? src) →
          Option.Rel (fun r r' => ∃ path path',
              PathRespelled (src.text hole) (src'.text hole') path path' ∧ r = r.at path ∧ r' = r.at path')
            ((c.clientCall? src config n).map ClientCall.request)
            ((c'.clientCall? src' config n').map ClientCall.request) := by
  refine ⟨fun e p hkind hinner => ?_, fun src' e he => ⟨fun n n' h => ?_, ?_⟩,
    fun src' hole hole' => ⟨fun n n' h => addressPath_refilled (.some h), ?_⟩⟩
  · have hparens : addressText? src p = stringText? src e :=
      (addressText?_parens hkind).trans (stringText?_inParens hkind hinner)
    refine ⟨?_, fun hnone => addressPath_of_none (hparens.trans (stringText?_eq_none_iff.mpr hnone))⟩
    rintro (⟨t, ht⟩ | hnone)
    · rw [addressPath_of_some (hparens.trans ht.stringText?),
        addressPath_of_some (addressText?_of_string ht.stringText?)]
    · rw [hnone]
      cases hstring : stringText? src e with
      | none => exact addressPath_of_none (hparens.trans hstring)
      | some t =>
          rw [addressPath_of_some (addressText?_of_string hstring)] at hnone
          exact absurd hnone (by simp)
  · exact addressPath_bracketed he (.some h)
  · intro config module function c c' n n' hc hc' h
    rw [CallSite.request_clientCall? hc, CallSite.request_clientCall? hc']
    exact requestAt?_bracketed he h config module function
  · intro config module function c c' n n' hc hc' h hmethod
    rw [CallSite.request_clientCall? hc, CallSite.request_clientCall? hc']
    exact requestAt?_refilled h config module function hmethod

/-! ## Operands in parentheses -/

/-- The tree of an expression in parentheses. -/
def inParens (start : Nat) (e : Node) : Node :=
  .node { kind := "parenthesized_expression", start, stop := e.stop + 1 }
    [token "(" start (start + 1), e, token ")" e.stop (e.stop + 1)]

/-- A placeholder that ends at an offset. -/
def placeholderAt (stop : Nat) : Node :=
  .node { kind := "interpolation", start := 5, stop } []

/-- The tree of `f"/i/…"` with a placeholder that ends at an offset. -/
def templateAt (stop : Nat) : Node :=
  .node { kind := "string", start := 0, stop := stop + 1 }
    [.node { kind := "string_start", start := 0, stop := 2 } [],
     .node { kind := "string_content", start := 2, stop := 5 } [], placeholderAt stop,
     .node { kind := "string_end", start := stop, stop := stop + 1 } []]

/-- A literal that is added to another one may stand in parentheses. Those in a placeholder are part of
the path. -/
theorem parentheses_keep_strings_operand :
    let src := plainSource "import aiohttp\naiohttp.get(\"/u\"+\"/u\")\n"
    let src' := plainSource "import aiohttp\naiohttp.get(\"/u\"+(\"/u\"))\n"
    let call := methodCall 15 22 26 37 [sumAt 31 (address 27) (address 32)]
    let call' := methodCall 15 22 26 39 [sumAt 31 (address 27) (inParens 32 (address 33))]
    let site : CallSite :=
      { caller := "<module>", callee := "aiohttp.get", kind := .importQualified, line := some 2
        column := some 0, targetModule := some "aiohttp", targetSymbol := some "get" }
    let template := plainSource "f\"/i/\x7bx\x7d\""
    let template' := plainSource "f\"/i/\x7b(x)\x7d\""
    (address 32).IsExpression ∧ ChangedArguments src src' (PutInParens src src' (address 32)) call call' ∧
      ¬ HiddenByParens src (address 32) ∧
      (site.clientCall? src' {} call').map ClientCall.request =
        (site.clientCall? src {} call).map ClientCall.request ∧
      fileRequests src (importingModule 38 (evaluated call)) =
        [some ⟨"GET", some "/u/u", "literal", "aiohttp"⟩] ∧
      fileRequests src' (importingModule 40 (evaluated call')) =
        [some ⟨"GET", some "/u/u", "literal", "aiohttp"⟩] ∧
      Refilled template template' (placeholderAt 8) (placeholderAt 10) (templateAt 8) (templateAt 10) ∧
      PathRespelled (template.text (placeholderAt 8)) (template'.text (placeholderAt 10))
        (addressPath template (some (templateAt 8))) (addressPath template' (some (templateAt 10))) ∧
      addressPath template (some (templateAt 8)) = (some "/i/\x7bx\x7d", .template) ∧
      addressPath template' (some (templateAt 10)) = (some "/i/\x7b(x)\x7d", .template) := by
  intro src src' call call' site template template'
  have he : (address 32).IsExpression := ⟨by decide +kernel, by decide +kernel, by decide +kernel⟩
  have hshown : ¬ HiddenByParens src (address 32) := by
    rintro (hrole | ⟨hnone, _⟩)
    · exact absurd hrole (by decide +kernel)
    · exact hnone ⟨"/u", false⟩ (stringText?_eq_some_iff.mp rfl)
  have hparens : (inParens 32 (address 33)).Encloses src src' (address 32) :=
    ⟨rfl, rfl, rfl, address 33, rfl, by decide +kernel⟩
  have hsum : ChangedIn src src' (PutInParens src src' (address 32)) (sumAt 31 (address 27) (address 32))
      (sumAt 31 (address 27) (inParens 32 (address 33))) :=
    @ChangedIn.inside src src' _ _ _ [_, _] [_, _] [] [] _ _ (by decide) rfl rfl rfl (by decide)
      (by decide +kernel) (.here ⟨rfl, hparens⟩) rfl
  have hargs : ChangedArguments src src' (PutInParens src src' (address 32)) call call' :=
    .some (.put (@ChangedIn.inside src src' _ _ _ [_] [_] [_] [_] _ _ (by decide) rfl rfl rfl
      (by decide) (by decide +kernel) hsum (by decide +kernel)))
  have hrefilled : Refilled template template' (placeholderAt 8) (placeholderAt 10) (templateAt 8)
      (templateAt 10) :=
    ⟨rfl, rfl, rfl, by decide, rfl, rfl, rfl, rfl, [_, _], [_, _], [_], [_], rfl, rfl, by decide +kernel,
      by decide +kernel⟩
  refine ⟨he, hargs, hshown, ?_, by decide +kernel, by decide +kernel, hrefilled,
    ((parentheses_keep_strings template).2.2 template' _ _).1 _ _ (.put (.here hrefilled)),
    by decide +kernel, by decide +kernel⟩
  have htargets : site.Targets "aiohttp" "get" := ⟨rfl, rfl, rfl⟩
  rcases ((parentheses_keep_strings src).2.1 src' (address 32) he).2 {} "aiohttp" "get" site site call
    call' htargets htargets hargs with hsame | ⟨hhidden, _⟩
  · exact hsame
  · exact absurd hhidden hshown

/-- A sum is not found in parentheses: the path of its request is lost. -/
theorem parentheses_hide_sum :
    let src := plainSource "import aiohttp\naiohttp.get((\"/u\"+\"/u\"))\n"
    let e := sumAt 32 (address 28) (address 33)
    let p := inParens 27 e
    p.kind = "parenthesized_expression" ∧ p.contents = [e] ∧
      addressPath src (some e) = (some "/u/u", .literal) ∧
      addressPath src (some p) = (none, .unresolved) ∧
      fileRequests src (importingModule 40 (evaluated (methodCall 15 22 26 39 [p]))) =
        [some ⟨"GET", none, "unresolved", "aiohttp"⟩] := by
  intro src e p
  exact ⟨rfl, rfl, by decide +kernel, by decide +kernel, by decide +kernel⟩

end SourceFacts
