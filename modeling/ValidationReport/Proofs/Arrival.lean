import ValidationReport.Endpoint
import ValidationReport.Proofs.WellFormed

/-!
# What arrives with a form

A form may bring along the contents of a request: a document, facts, a policy and
names of data files.  Text that arrives was decoded from octets, so it is well
formed, whatever was sent.  An endpoint sees nothing of a form but its contents.

## Main definitions

* `Contents` — what a request brings along.
* `Form.Holds`, `Form.Brings` — a form with those contents, after and before it
  arrives.
* `Form.AsksFor`, `Form.BringsFacts` — a form that also names a layer, and one that
  brings facts at least.
* `Endpoint.posted` — the answer to a form that is posted.

## Main results

* `Part.read_append` — the content of a file is not looked at.
* `Part.wellFormed_of_read` — **a part that arrives is well formed.**
* `Form.Brings.wellFormed` — so are the contents of a form.
* `Form.AsksFor.posted`, `Form.Brings.posted`, `Form.BringsFacts.posted` — every
  endpoint answers by the contents alone.
-/

namespace ValidationReport

/-! ### Contents -/

/-- What a request brings along, whatever endpoint it is posted to. -/
structure Contents where
  document : Upload
  facts : Bytes
  policy : Text
  dataFiles : List Text

namespace Contents

/-- The document that the contents are about. -/
def named (c : Contents) : Document := Form.documentOf c.document c.dataFiles

/-- The request for a layer of the report on the contents. -/
def request (c : Contents) (type : ReportType) : Request :=
  ⟨c.named, .bytes c.facts, some c.policy, type⟩

/-- A document without a name is called a document, and any other keeps its name. -/
theorem filename_named (c : Contents) : c.named.filename =
    if c.document.filename = [] then Text.ofString "document" else c.document.filename := by
  unfold named Form.documentOf
  simp only [List.isEmpty_iff]

/-- The texts of the contents are well formed. -/
structure WellFormed (c : Contents) : Prop where
  filename : c.document.filename.isWellFormed = true
  policy : c.policy.isWellFormed = true
  dataFiles : ∀ name ∈ c.dataFiles, name.isWellFormed = true

end Contents

namespace Form

/-- A form that has arrived with those contents. -/
structure Holds (f : Form) (c : Contents) : Prop where
  document : f.file "document" = .ok c.document
  facts : ∃ u, f.file "facts" = .ok u ∧ u.content = c.facts
  policy : f.text "policy" = .ok c.policy
  dataFiles : f.texts "data_files" = .ok c.dataFiles

/-- A form that arrives with those contents. -/
def Brings (f : Form) (c : Contents) : Prop := ∃ g, f.arrive = .ok g ∧ g.Holds c

/-- A form that arrives with those contents and names a layer. -/
def AsksFor (f : Form) (c : Contents) (type : ReportType) : Prop :=
  ∃ g, f.arrive = .ok g ∧ g.Holds c ∧ g.reportType = .ok type

/-- A form that arrives with those facts. -/
def BringsFacts (f : Form) (facts : Bytes) : Prop :=
  ∃ g u, f.arrive = .ok g ∧ g.file "facts" = .ok u ∧ u.content = facts

theorem AsksFor.brings {f : Form} {c : Contents} {type : ReportType} (h : f.AsksFor c type) :
    f.Brings c := by
  obtain ⟨g, hg, hholds, -⟩ := h
  exact ⟨g, hg, hholds⟩

theorem Brings.bringsFacts {f : Form} {c : Contents} (h : f.Brings c) : f.BringsFacts c.facts := by
  obtain ⟨g, hg, hholds⟩ := h
  obtain ⟨u, hu, hcontent⟩ := hholds.facts
  exact ⟨g, u, hg, hu, hcontent⟩

end Form

/-! ### Pieces of a disposition -/

theorem subset_of_mem_piecesFrom {t : Text} : ∀ {piece : Text} {quoted : Bool} {p : Text},
    p ∈ piecesFrom piece quoted t → p ⊆ piece ++ t := by
  induction t with
  | nil =>
    intro piece quoted p hp
    rw [List.mem_singleton.mp hp, List.append_nil]
    exact (List.reverse_perm piece).subset
  | cons c t ih =>
    intro piece quoted p hp
    unfold piecesFrom at hp
    split at hp
    · rcases List.mem_cons.mp hp with rfl | hp
      · exact List.Subset.trans (List.reverse_perm piece).subset (List.subset_append_left _ _)
      · exact List.Subset.trans (ih hp) (List.Subset.trans (List.subset_cons_self c t)
          (List.subset_append_right _ _))
    · refine List.Subset.trans (ih hp) ?_
      rw [List.cons_append]
      exact (List.perm_middle (a := c)).symm.subset

theorem withoutEscapes_subset (escaped : Code) : ∀ t : Text, withoutEscapes escaped t ⊆ t
  | [] => List.Subset.refl []
  | [a] => List.Subset.refl [a]
  | a :: b :: rest => by
    rw [withoutEscapes]
    split
    · exact List.Subset.trans (List.cons_subset_cons b (withoutEscapes_subset escaped rest))
        (List.subset_cons_self a _)
    · exact List.cons_subset_cons a (withoutEscapes_subset escaped (b :: rest))

theorem Text.unquoted_subset (t : Text) : t.unquoted ⊆ t := by
  have hinner : t.tail.dropLast ⊆ t :=
    List.Subset.trans (List.dropLast_sublist _).subset (List.tail_sublist t).subset
  unfold unquoted
  split_ifs
  · exact List.Subset.refl t
  · exact List.Subset.trans (withoutEscapes_subset _ _)
      (List.Subset.trans (withoutEscapes_subset _ _) hinner)
  · exact hinner
  · exact List.Subset.refl t

theorem baseName_subset (path : Text) : baseName path ⊆ path := by
  unfold baseName
  split
  · intro c hc
    exact List.mem_reverse.mp ((List.takeWhile_prefix _).subset (List.mem_reverse.mp hc))
  · exact List.Subset.refl path

/-- The value of a parameter is a part of the disposition. -/
theorem subset_of_mem_parameters {disposition : Text} {key value : Text}
    (h : (key, value) ∈ parameters disposition) : value ⊆ disposition := by
  obtain ⟨piece, hpiece, hparameter⟩ := List.mem_map.mp (List.mem_reverse.mp h)
  cases hparameter
  calc Text.unquoted (Text.trim ((piece.dropWhile fun c => c != ('=' : Code)).drop 1))
      ⊆ Text.trim ((piece.dropWhile fun c => c != ('=' : Code)).drop 1) := Text.unquoted_subset _
    _ ⊆ (piece.dropWhile fun c => c != ('=' : Code)).drop 1 := Text.trim_subset _
    _ ⊆ piece.dropWhile fun c => c != ('=' : Code) := (List.drop_sublist _ _).subset
    _ ⊆ piece := (List.dropWhile_suffix _).subset
    _ ⊆ [] ++ disposition := subset_of_mem_piecesFrom (List.mem_of_mem_tail hpiece)

/-! ### The content behind a head -/

/-- Octets behind a line do not change it. -/
theorem line?_append (more : Bytes) {limit : ℕ} {octets line rest : Bytes}
    (h : line? limit octets = some (line, rest)) :
    line? limit (octets ++ more) = some (line, rest ++ more) := by
  -- of the two octets that end a line the second is looked at together with the first
  fun_induction line? limit octets generalizing line rest with
  | case1 | case3 | case5 => cases h
  | case2 b octets hend =>
    obtain ⟨hb, hhead⟩ := hend
    obtain ⟨tail, rfl⟩ := List.head?_eq_some_iff.mp hhead
    cases h
    rw [List.cons_append, line?, if_pos ⟨hb, rfl⟩]
    rfl
  | case4 limit octets hhead =>
    obtain ⟨tail, rfl⟩ := List.head?_eq_some_iff.mp hhead
    cases h
    rw [List.cons_append, line?, if_pos rfl]
    exact if_pos rfl
  | case6 limit b octets hb ih =>
    obtain ⟨⟨line', rest'⟩, hline, hcons⟩ := Option.map_eq_some_iff.mp h
    cases hcons
    rw [List.cons_append, line?, if_neg hb, ih hline]
    rfl

/-- Octets behind a head are the end of its content. -/
theorem headFields?_append (more : Bytes) {limit : ℕ} {octets content : Bytes}
    {fields : List (Text × Text)} (h : headFields? limit octets = some (fields, content)) :
    headFields? limit (octets ++ more) = some (fields, content ++ more) := by
  fun_induction headFields? limit octets generalizing fields content with
  | case1 | case4 => cases h
  | case2 limit octets content hline =>
    cases h
    unfold headFields?
    rw [line?_append more hline]
  | case3 octets line rest hline hsplit limit field hfield ih =>
    obtain ⟨⟨fields', content'⟩, hfields, hcons⟩ := Option.map_eq_some_iff.mp h
    cases hcons
    rw [headFields?, line?_append more hsplit]
    simp only [hfield, ih hfields]
    rfl

/-- **The content of a file is not looked at.**  What is behind it belongs to it. -/
theorem Part.read_append {octets : Bytes} {name : Text} {u : Upload}
    (h : Part.read octets = .ok (name, .upload u)) (more : Bytes) :
    Part.read (octets ++ more) = .ok (name, .upload { u with content := u.content ++ more }) := by
  unfold Part.read at h ⊢
  split at h
  · cases h
  · next fields content hfields =>
    rw [headFields?_append more hfields]
    dsimp only at h ⊢
    split at h
    · cases h
    · cases h
    · next name' path hname hpath =>
      cases h
      rfl

/-! ### Parts that arrive -/

/-- The texts of a part that a request may use are well formed. -/
def Part.WellFormed : Part → Prop
  | .text t => t.isWellFormed = true
  | .upload u => u.filename.isWellFormed = true

theorem isWellFormed_of_headField? {line : Bytes} {field : Text × Text}
    (h : headField? line = some field) : field.2.isWellFormed = true := by
  unfold headField? at h
  dsimp only at h
  split at h
  · split_ifs at h
    cases h
    exact Text.isWellFormed_ofOctets _
  · cases h

/-- The values in a head are texts of octets. -/
theorem isWellFormed_of_mem_headFields {limit : ℕ} {octets content : Bytes}
    {fields : List (Text × Text)} (h : headFields? limit octets = some (fields, content)) :
    ∀ field ∈ fields, field.2.isWellFormed = true := by
  fun_induction headFields? limit octets generalizing fields content with
  | case1 | case4 => cases h
  | case2 =>
    cases h
    exact fun field hfield => by cases hfield
  | case3 octets line rest hline hsplit limit field hfield ih =>
    obtain ⟨⟨fields', content'⟩, hfields, hcons⟩ := Option.map_eq_some_iff.mp h
    cases hcons
    exact List.forall_mem_cons.mpr ⟨isWellFormed_of_headField? hfield, ih hfields⟩

theorem isWellFormed_lastField? {name : Text} {fields : List (Text × Text)}
    (h : ∀ field ∈ fields, field.2.isWellFormed = true) :
    Text.WellFormedIfAny (lastField? name fields) := by
  intro t ht
  obtain ⟨field, hfield, rfl⟩ := Option.map_eq_some_iff.mp ht
  exact h field (List.mem_reverse.mp (List.mem_of_find?_eq_some hfield))

/-- **A part that arrives is well formed.**  Its texts are decoded from octets, and a name that is
no UTF-8 is a text of octets. -/
theorem Part.wellFormed_of_read {octets : Bytes} {name : Text} {p : Part}
    (h : Part.read octets = .ok (name, p)) : p.WellFormed := by
  unfold Part.read at h
  split at h
  · cases h
  · next fields content hfields =>
    have hvalue : Text.WellFormedIfAny (lastField? dispositionName fields) :=
      isWellFormed_lastField? (isWellFormed_of_mem_headFields hfields)
    have hdisposition := hvalue.getD
    dsimp only at h
    split at h
    · cases h
    · cases h
      exact Text.isWellFormed_decoded (Text.isWellFormed_ofOctets _)
    · next path _ hpath =>
      cases h
      obtain ⟨before, after, hsplit, -⟩ := List.lookup_eq_some_iff.mp hpath
      have hmem := subset_of_mem_parameters
        (hsplit ▸ List.mem_append_right before List.mem_cons_self)
      exact Text.isWellFormed_decoded (Text.isWellFormed_of_subset hdisposition
        (List.Subset.trans (baseName_subset path) hmem))

namespace Form

/-- A form with a file is sent in parts. -/
theorem arrive_of_mem_upload {f : Form} {name : Text} {u : Upload} (h : (name, .upload u) ∈ f) :
    f.arrive = (f.arriveAfter 0 0).map fun parts => parts.filter fun p => !p.2.isNoFile := by
  unfold arrive
  exact if_pos (List.any_eq_true.mpr ⟨_, h, rfl⟩)

theorem arriveAfter_upload {name name' : Text} {p : Part} {u : Upload} {texts files : ℕ}
    (h : Part.read (p.octets name) = .ok (name', .upload u)) (hfiles : files < partLimit)
    (rest : Form) : arriveAfter texts files ((name, p) :: rest) =
      (arriveAfter texts (files + 1) rest).map ((name', .upload u) :: ·) := by
  rw [arriveAfter, h]
  simp only [Except.mapError, bind, Except.bind, if_neg (Nat.not_le_of_gt hfiles)]
  cases arriveAfter texts (files + 1) rest <;> rfl

theorem arriveAfter_text {name name' t : Text} {p : Part} {texts files : ℕ}
    (h : Part.read (p.octets name) = .ok (name', .text t)) (htexts : texts < partLimit)
    (hshort : (Part.text t).content.length ≤ textLimit * 1024) (rest : Form) :
    arriveAfter texts files ((name, p) :: rest) =
      (arriveAfter (texts + 1) files rest).map ((name', .text t) :: ·) := by
  rw [arriveAfter, h]
  simp only [Except.mapError, bind, Except.bind, if_neg (Nat.not_le_of_gt htexts),
    if_neg (Nat.not_lt_of_ge hshort)]
  cases arriveAfter (texts + 1) files rest <;> rfl

theorem wellFormed_of_mem_arriveAfter : ∀ {f g : Form} {texts files : ℕ},
    f.arriveAfter texts files = .ok g → ∀ p ∈ g, p.2.WellFormed := by
  intro f
  induction f with
  | nil =>
    intro g texts files h
    cases h
    exact fun p hp => by cases hp
  | cons part f ih =>
    obtain ⟨name, p⟩ := part
    intro g texts files h
    rw [arriveAfter] at h
    obtain ⟨⟨name', p'⟩, hread, h⟩ := bind_eq_ok_iff.mp h
    have hp' : p'.WellFormed := by
      cases hok : Part.read (p.octets name) with
      | error fault =>
        rw [hok] at hread
        cases hread
      | ok read =>
        rw [hok] at hread
        cases hread
        exact Part.wellFormed_of_read hok
    have hrest : ∃ g' texts' files', arriveAfter texts' files' f = .ok g' ∧
        g = (name', p') :: g' := by
      -- a part beyond a limit is refused, and any other stands before the rest
      dsimp only at h
      split at h <;> split_ifs at h
      all_goals first
        | cases h
        | obtain ⟨g', hg', hcons⟩ := bind_eq_ok_iff.mp h
          cases hcons
          exact ⟨g', _, _, hg', rfl⟩
    obtain ⟨g', texts', files', hg', rfl⟩ := hrest
    exact List.forall_mem_cons.mpr ⟨hp', ih hg'⟩

/-! ### Fields -/

theorem mem_of_part? {f : Form} {name : Text} {p : Part} (h : f.part? name = some p) :
    (name, p) ∈ f := by
  obtain ⟨hfound, -⟩ := Option.filter_eq_some_iff.mp h
  obtain ⟨part, hpart, rfl⟩ := Option.map_eq_some_iff.mp hfound
  have hname : part.1 = name := by simpa using List.find?_some hpart
  exact hname ▸ List.mem_reverse.mp (List.mem_of_find?_eq_some hpart)

theorem mem_of_file {f : Form} {name : Text} {u : Upload} (h : f.file name = .ok u) :
    (name, .upload u) ∈ f := by
  unfold file at h
  split at h
  · cases h
  · cases h
  · next hpart =>
    cases h
    exact mem_of_part? hpart

/-- A text is in the form, or is empty. -/
theorem mem_of_text {f : Form} {name t : Text} (h : f.text name = .ok t) :
    t = [] ∨ (name, .text t) ∈ f := by
  unfold text at h
  split at h
  · cases h
    exact Or.inl rfl
  · next hpart =>
    cases h
    exact Or.inr (mem_of_part? hpart)
  · cases h

theorem mem_of_textsFrom {name t : Text} : ∀ {parts : List Part} {i : ℕ} {ts : List Text},
    textsFrom name i parts = .ok ts → t ∈ ts → .text t ∈ parts := by
  intro parts
  induction parts with
  | nil =>
    intro i ts h ht
    cases h
    cases ht
  | cons p parts ih =>
    intro i ts h ht
    cases p with
    | text u =>
      obtain ⟨rest, hrest, rfl⟩ := map_eq_ok_iff.mp h
      rcases List.mem_cons.mp ht with rfl | ht
      · exact List.mem_cons_self
      · exact List.mem_cons_of_mem _ (ih hrest ht)
    | upload u =>
      unfold textsFrom at h
      split at h <;> cases h

theorem mem_of_texts {f : Form} {name t : Text} {ts : List Text} (h : f.texts name = .ok ts)
    (ht : t ∈ ts) : (name, .text t) ∈ f := by
  obtain ⟨part, hpart, htext⟩ := List.mem_map.mp (mem_of_textsFrom h ht)
  obtain ⟨hmem, hname⟩ := List.mem_filter.mp hpart
  have hpair : part = (name, .text t) := Prod.ext (of_decide_eq_true hname) htext
  exact hpair ▸ hmem

/-! ### Contents that arrive -/

/-- A form with a file is sent in parts, so all that arrives of it is well formed. -/
theorem wellFormed_of_arrive {f g : Form} (h : f.arrive = .ok g) {name : Text} {u : Upload}
    (hfile : (name, .upload u) ∈ g) : ∀ p ∈ g, p.2.WellFormed := by
  unfold arrive at h
  split_ifs at h with hfiles hlimit
  · obtain ⟨parts, hparts, rfl⟩ := map_eq_ok_iff.mp h
    exact fun p hp => wellFormed_of_mem_arriveAfter hparts p (List.mem_of_mem_filter hp)
  · cases h
    exact absurd (List.any_eq_true.mpr ⟨_, hfile, rfl⟩) hfiles

/-- **The contents of a form are well formed**, whatever was sent. -/
theorem Brings.wellFormed {f : Form} {c : Contents} (h : f.Brings c) : c.WellFormed := by
  obtain ⟨g, hg, hholds⟩ := h
  -- the document is a file, so the form is sent in parts
  have hdocument := mem_of_file hholds.document
  have hparts := wellFormed_of_arrive hg hdocument
  constructor
  case filename => exact hparts _ hdocument
  case policy =>
    rcases mem_of_text hholds.policy with hempty | hmem
    · rw [hempty]
      rfl
    · exact hparts _ hmem
  case dataFiles => exact fun name hname => hparts _ (mem_of_texts hholds.dataFiles hname)

/-! ### Posted forms -/

/-- The request that a form with the contents makes. -/
theorem Holds.request_eq {f : Form} {c : Contents} (h : f.Holds c) {checked : Checked ReportType}
    {type : ReportType} (htype : checked = .ok type) :
    f.request checked = .ok (c.request type) := by
  obtain ⟨u, hu, hcontent⟩ := h.facts
  unfold request
  rw [h.document, hu, h.policy, h.dataFiles, htype, Contents.request, ← hcontent]
  rfl

end Form

/-- The answer to a form that is posted to an endpoint. -/
def Endpoint.posted (e : Endpoint) (settings : Settings) (layout : PageLayout) (now : Moment)
    (f : Form) : Response :=
  respond settings now e.path "POST" f layout

/-- The endpoint answers to the form that arrives. -/
theorem Endpoint.posted_eq {settings : Settings} {layout : PageLayout} {now : Moment} {f g : Form}
    (e : Endpoint) (h : f.arrive = .ok g) :
    e.posted settings layout now f = e.answer settings layout now g := by
  have hpath : Resource.ofPath? (Target.path e.path) = some (.endpoint e) := by
    cases e <;> decide +kernel
  have hmethod : (Resource.endpoint e).methods.contains (Text.upper "POST") = true := by
    cases e <;> decide +kernel
  unfold posted respond
  rw [hpath]
  simp only [hmethod, if_true, h]

section

variable {settings : Settings} {layout : PageLayout} {now : Moment} {f : Form} {c : Contents}

/-- The layer that is answered is that of the contents. -/
theorem Form.AsksFor.posted {type : ReportType} (h : f.AsksFor c type) :
    Endpoint.validate.posted settings layout now f =
      Endpoint.layerResponse type (validate settings standardPolicies now (c.request type)) := by
  obtain ⟨g, hg, hholds, htype⟩ := h
  rw [Endpoint.posted_eq _ hg, Endpoint.answer, hholds.request_eq htype]
  rfl

/-- The protocol that is answered is that of the contents. -/
theorem Form.Brings.posted (h : f.Brings c) :
    Endpoint.report.posted settings layout now f = Endpoint.protocolResponse layout
      (validate settings standardPolicies now (c.request .simple)) := by
  obtain ⟨g, hg, hholds⟩ := h
  rw [Endpoint.posted_eq _ hg, Endpoint.answer, hholds.request_eq rfl]

/-- The data files that are answered are those of the facts. -/
theorem Form.BringsFacts.posted {facts : Bytes} (h : f.BringsFacts facts) :
    Endpoint.dataFiles.posted settings layout now f =
      Endpoint.dataFilesResponse (dataFileReport (.bytes facts)) := by
  obtain ⟨g, u, hg, hu, rfl⟩ := h
  rw [Endpoint.posted_eq _ hg, Endpoint.answer, hu]

end

end ValidationReport
