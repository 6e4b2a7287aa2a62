import SourceFacts.Proofs.Client.Request

/-!
# Nodes that are written alike

Two nodes of two sources are written alike if they differ in their places alone. The readers of strings
and of addresses find the same in them, so two calls of one function whose arguments are written alike
make the same request.
-/

namespace SourceFacts

open StringText

mutual

def isWrittenAlike (src src' : Source) : Node → Node → Bool
  | .node l cs, .node l' cs' =>
    l'.kind == l.kind && l'.field == l.field && l'.isNamed == l.isNamed &&
      src'.text (.node l' cs') == src.text (.node l cs) && areWrittenAlike src src' cs cs'

def areWrittenAlike (src src' : Source) : List Node → List Node → Bool
  | [], [] => true
  | c :: cs, c' :: cs' => isWrittenAlike src src' c c' && areWrittenAlike src src' cs cs'
  | _, _ => false

end

/-- The nodes differ in their places alone. -/
abbrev WrittenAlike (src src' : Source) (n n' : Node) : Prop :=
  isWrittenAlike src src' n n' = true

section WrittenAlike

variable {src src' : Source}

theorem forall₂_of_areWrittenAlike {cs cs' : List Node} (h : areWrittenAlike src src' cs cs' = true) :
    List.Forall₂ (WrittenAlike src src') cs cs' := by
  induction cs generalizing cs' with
  | nil =>
      cases cs' with
      | nil => exact .nil
      | cons c' cs' => exact absurd h (by simp [areWrittenAlike])
  | cons c cs ih =>
      cases cs' with
      | nil => exact absurd h (by simp [areWrittenAlike])
      | cons c' cs' =>
          rw [areWrittenAlike, Bool.and_eq_true] at h
          exact .cons h.1 (ih h.2)

namespace WrittenAlike

variable {n n' : Node} (h : WrittenAlike src src' n n')

include h

theorem parts : n'.kind = n.kind ∧ n'.field = n.field ∧ n'.label.isNamed = n.label.isNamed ∧
    src'.text n' = src.text n ∧ List.Forall₂ (WrittenAlike src src') n.children n'.children := by
  obtain ⟨l, cs⟩ := n
  obtain ⟨l', cs'⟩ := n'
  rw [WrittenAlike, isWrittenAlike] at h
  simp only [Bool.and_eq_true, beq_iff_eq] at h
  obtain ⟨⟨⟨⟨hkind, hfield⟩, hnamed⟩, htext⟩, hchildren⟩ := h
  exact ⟨hkind, hfield, hnamed, htext, forall₂_of_areWrittenAlike hchildren⟩

theorem kind : n'.kind = n.kind := (parts h).1

theorem field : n'.field = n.field := (parts h).2.1

theorem isContent : n'.isContent = n.isContent := by
  rw [Node.isContent, Node.isContent, (parts h).2.2.1, kind h]

theorem text : src'.text n' = src.text n := (parts h).2.2.2.1

theorem children : List.Forall₂ (WrittenAlike src src') n.children n'.children := (parts h).2.2.2.2

theorem contents : List.Forall₂ (WrittenAlike src src') n.contents n'.contents :=
  filter_related (children h) fun _ _ hc => isContent hc

theorem child? (f : String) : Option.Rel (WrittenAlike src src') (n.child? f) (n'.child? f) :=
  find?_related (children h) fun _ _ hc => by rw [Node.hasField, Node.hasField, field hc]

theorem map_text_child? (f : String) :
    (n'.child? f).map src'.text = (n.child? f).map src.text :=
  option_map_eq_of_related (child? h f) fun _ _ hc => text hc

end WrittenAlike

variable {n n' : Node}

/-! ## Strings and addresses -/

theorem stringText?_writtenAlike (h : WrittenAlike src src' n n') :
    stringText? src' n' = stringText? src n := by
  induction n using Node.inductionOnChildren generalizing n' with
  | step n ih =>
  refine stringText?_congr h.kind (fun _ => ?_) ?_
  · have hpieces : List.Forall₂ (fun c c' => c'.kind = c.kind ∧ src'.text c' = src.text c)
        n.children n'.children := h.children.imp fun _ _ hc => ⟨hc.kind, hc.text⟩
    rw [Node.stringParts, Node.stringParts, StringParts.ofChildren?_of_related hpieces, h.text]
  · exact map_eq_of_related (filter_related (forall₂_with_mem h.children) fun _ _ hc => hc.2.isContent)
      fun c _ hc => ih c hc.1 hc.2

theorem formatted?_writtenAlike (h : WrittenAlike src src' n n') :
    n'.formatted? src' = n.formatted? src :=
  Node.formatted?_congr h.kind (h.map_text_child? "attribute")
    (bind_eq_of_related (h.child? "object") fun _ _ hc => stringText?_writtenAlike hc)

theorem addressText?_writtenAlike (h : WrittenAlike src src' n n') :
    addressText? src' n' = addressText? src n := by
  induction n using Node.inductionOnChildren generalizing n' with
  | step n ih =>
  have hsame : n'.isSum src' = n.isSum src :=
    Node.isSum_congr h.kind h.contents.length_eq.symm (h.map_text_child? "operator")
  cases hsum : n.isSum src with
  | true =>
      rw [addressText?_of_sum hsum, addressText?_of_sum (hsame.trans hsum)]
      exact congrArg all? (map_eq_of_related
        (filter_related (forall₂_with_mem h.children) fun _ _ hc => hc.2.isContent)
        fun c _ hc => ih c hc.1 hc.2)
  | false =>
      have hformat : n'.formatText? src' = n.formatText? src := by
        rw [Node.formatText?_eq, Node.formatText?_eq, h.kind,
          bind_eq_of_related (h.child? "function") fun _ _ hf => formatted?_writtenAlike hf]
      rw [addressText?_of_not_sum hsum, addressText?_of_not_sum (hsame.trans hsum), hformat,
        stringText?_writtenAlike h]

theorem addressPath_writtenAlike {a a' : Option Node} (h : Option.Rel (WrittenAlike src src') a a') :
    addressPath src' a' = addressPath src a := by
  rw [addressPath, addressPath, bind_eq_of_related h fun _ _ hc => addressText?_writtenAlike hc]

/-! ## Arguments -/

theorem passedAlike_writtenAlike (h : WrittenAlike src src' n n') :
    CallArguments.PassedAlike (WrittenAlike src src') src src' n n' :=
  .of_kind h.kind (h.map_text_child? "name") (h.child? "value") h

theorem listedAlike_writtenAlike (h : WrittenAlike src src' n n') :
    ListedAlike (WrittenAlike src src') src src' n n' :=
  ⟨h.kind, h.contents.imp fun _ _ hc => passedAlike_writtenAlike hc⟩

/-- The lists of arguments of two calls are written alike, or both calls have none. -/
def SameArguments (src src' : Source) (n n' : Node) : Prop :=
  Option.Rel (WrittenAlike src src') (n.child? "arguments") (n'.child? "arguments")

theorem requestAt?_sameArguments (h : SameArguments src src' n n') (config : Config)
    (module function : String) :
    requestAt? src' config module function (n'.callArguments src') =
      requestAt? src config module function (n.callArguments src) := by
  have hargs := callArguments_related (option_related_imp h fun _ _ => listedAlike_writtenAlike)
  have hmethod := methodText?_related (fun _ _ hc => stringText?_writtenAlike hc) hargs
  have hrequest := requestOf?_related hargs config function (.inr hmethod)
  have hto : ∀ library, (requestOf? src' config function (n'.callArguments src')).map
      (Request.to src' library) = (requestOf? src config function (n.callArguments src)).map
        (Request.to src library) := fun library =>
    option_map_eq_of_related hrequest fun r r' hr => by
      rw [Request.to, Request.to, hr.1, addressPath_writtenAlike hr.2]
  simp only [requestAt?, hto]

end WrittenAlike

end SourceFacts
