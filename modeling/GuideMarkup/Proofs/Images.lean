import GuideMarkup.Rule.Basic
import Mathlib.Data.List.Basic

/-!
# Proofs/Images — what tells pictures from icons, and which hosts are served

    class = " img-small  round "          words    img-small, round
    host  = cdn.dofusdb.fr                labels   cdn, dofusdb, fr

An image is a picture by one of the words of its classes, and is fetched by the host program if the
labels of a known host are the last labels of its own host.  The code looks at characters only, at
the pieces between blanks and at a dot before the known host; `mem_words_iff` and `isWithin_iff` say
that this comes to the same, so that a host that merely ends in the characters of a known one is not
taken for it.
-/

namespace GuideMarkup

/-! ## Pieces -/

theorem pieces_eq_splitOnP {α : Type} (p : α → Bool) (s : List α) : pieces p s = s.splitOnP p := by
  induction s with
  | nil => rfl
  | cons a rest ih =>
    rw [pieces, ih, List.splitOnP_cons_eq_if_modifyHead]
    by_cases parts : p a = true
    · rw [if_pos parts, if_pos parts]
    · rw [if_neg parts, if_neg parts]
      cases found : rest.splitOnP p with
      | nil => exact absurd found (List.splitOnP_ne_nil p rest)
      | cons piece more => rfl

/-- **What a piece is**: members that do not part, between the ends or members that do. -/
def IsPiece {α : Type} (p : α → Bool) (piece s : List α) : Prop :=
  ∃ front back, s = front ++ piece ++ back ∧ (∀ a ∈ piece, p a = false) ∧
    (∀ a ∈ front.getLast?, p a = true) ∧ ∀ a ∈ back.head?, p a = true

section Pieces

variable {α : Type} {p : α → Bool}

theorem IsPiece.mem_pieces {piece s : List α} (isPiece : IsPiece p piece s) :
    piece ∈ pieces p s := by
  obtain ⟨front, back, rfl, whole, before, behind⟩ := isPiece
  rw [pieces_eq_splitOnP]
  have first : piece ∈ (piece ++ back).splitOnP p := by
    rcases back with _ | ⟨b, back⟩
    · rw [List.append_nil, List.splitOnP_eq_singleton whole]
      exact List.mem_singleton_self piece
    · rw [List.splitOnP_append_cons_of_forall_mem whole b (behind b rfl)]
      exact List.mem_cons_self
  rcases List.eq_nil_or_concat' front with rfl | ⟨front, a, rfl⟩
  · exact first
  · have parts : p a = true := before a (by simp)
    rw [List.append_assoc, List.append_assoc, List.singleton_append,
      List.splitOnP_append_cons _ _ parts]
    exact List.mem_append_right _ first

/-- The pieces of what follows a member that parts are pieces. -/
theorem IsPiece.append_cons {piece back : List α} {a : α} (isPiece : IsPiece p piece back)
    (parts : p a = true) (front : List α) : IsPiece p piece (front ++ a :: back) := by
  obtain ⟨more, behind, rfl, whole, before, after⟩ := isPiece
  refine ⟨front ++ a :: more, behind, by simp, whole, fun b isLast => ?_, after⟩
  rcases List.eq_nil_or_concat' more with rfl | ⟨more, c, rfl⟩
  · obtain rfl : a = b := by simpa using isLast
    exact parts
  · rw [← List.cons_append, ← List.append_assoc, List.getLast?_concat] at isLast
    exact before b (by rwa [List.getLast?_concat])

theorem isPiece_of_mem_pieces {piece s : List α} (member : piece ∈ pieces p s) :
    IsPiece p piece s := by
  cases found : s.find? p with
  | none =>
    have whole : ∀ a ∈ s, p a = false := by simpa using List.find?_eq_none.mp found
    rw [pieces_eq_splitOnP, List.splitOnP_eq_singleton whole, List.mem_singleton] at member
    exact ⟨[], [], by simp [member], member ▸ whole, nofun, nofun⟩
  | some a =>
    obtain ⟨parts, front, back, split, others⟩ := List.find?_eq_some_iff_append.mp found
    have whole : ∀ b ∈ front, p b = false := by simpa using others
    have shorter : back.length < s.length := by
      rw [split, List.length_append, List.length_cons]
      omega
    rw [pieces_eq_splitOnP, split, List.splitOnP_append_cons_of_forall_mem whole a parts,
      List.mem_cons, ← pieces_eq_splitOnP] at member
    rw [split]
    rcases member with rfl | member
    · exact ⟨[], a :: back, rfl, whole, nofun, fun b isHead => Option.some.inj isHead ▸ parts⟩
    · exact (isPiece_of_mem_pieces member).append_cons parts front
termination_by s.length

end Pieces

/-! ## Words -/

/-- **A word of a text**: some characters that are no blanks, between the ends of the text or
blanks. -/
def IsWord (word text : List Char) : Prop :=
  word ≠ [] ∧ IsPiece isBlank word text

theorem mem_words_iff {word text : List Char} : word ∈ words text ↔ IsWord word text := by
  rw [words, List.mem_filter, IsWord, and_comm]
  simp only [Bool.not_eq_true', List.isEmpty_eq_false_iff]
  exact and_congr_right fun _ => ⟨isPiece_of_mem_pieces, IsPiece.mem_pieces⟩

theorem shares_classes_iff {classes : List String} {tag : Tag} :
    shares classes tag.classes = true ↔
      ∃ name ∈ classes, IsWord name.toList (tag.attr "class").toList := by
  simp only [shares, List.any_eq_true, List.contains_iff_mem, Tag.classes, List.mem_map]
  refine exists_congr fun name => and_congr_right fun _ => ?_
  rw [← mem_words_iff]
  constructor
  · rintro ⟨word, member, rfl⟩
    rwa [String.toList_ofList]
  · exact fun member => ⟨_, member, String.ofList_toList⟩

/-! ## Labels -/

/-- The labels of a host: what stands between its dots. -/
def labels (host : String) : List (List Char) :=
  pieces (· == '.') host.toList

section Labels

variable {α : Type}

/-- Texts with a mark between them go on, after the first of them, behind a mark. -/
theorem exists_intercalate_append (mark : α) {back : List (List α)} (nonempty : back ≠ []) :
    ∀ {front : List (List α)}, front ≠ [] →
      ∃ s, [mark].intercalate (front ++ back) = s ++ mark :: [mark].intercalate back
  | [], empty => absurd rfl empty
  | [s], _ => ⟨s, by
      rw [List.singleton_append, List.intercalate_cons_of_ne_nil nonempty, List.append_assoc,
        List.singleton_append]⟩
  | s :: t :: front, _ => by
    obtain ⟨u, same⟩ := exists_intercalate_append mark nonempty (List.cons_ne_nil t front)
    refine ⟨s ++ mark :: u, ?_⟩
    rw [List.cons_append, List.intercalate_cons_of_ne_nil (by simp), same]
    simp

theorem splitOn_suffix_iff [BEq α] [LawfulBEq α] {mark : α} {s t : List α} :
    s.splitOn mark <:+ t.splitOn mark ↔ t = s ∨ mark :: s <:+ t := by
  constructor
  · rintro ⟨front, split⟩
    have joined : t = [mark].intercalate (front ++ s.splitOn mark) := by
      rw [split, List.intercalate_splitOn]
    rcases eq_or_ne front [] with rfl | nonempty
    · rw [joined, List.nil_append, List.intercalate_splitOn]
      exact .inl rfl
    · obtain ⟨u, same⟩ :=
        exists_intercalate_append mark (List.splitOn_ne_nil mark s) nonempty
      rw [joined, same, List.intercalate_splitOn]
      exact .inr (List.suffix_append u _)
  · rintro (rfl | ⟨u, rfl⟩)
    · exact List.suffix_rfl
    · rw [List.splitOn_append_cons_self]
      exact List.suffix_append _ _

end Labels

/-- **A host is within another one just if the labels of that one are its last labels.** -/
theorem isWithin_iff {host parent : String} :
    isWithin host parent = true ↔ labels parent <:+ labels host := by
  simp only [labels, pieces_eq_splitOnP, ← List.splitOn_eq_splitOnP]
  rw [splitOn_suffix_iff, isWithin, Bool.or_eq_true, beq_iff_eq, List.isSuffixOf_iff_suffix,
    String.toList_inj]

/-! ## Images -/

namespace Links

variable {links : Links}

theorem isWithinAny_texts (host : String) (parents : List String) :
    isWithinAny host (parents.map Data.text) = .ok (parents.any (isWithin host)) := by
  induction parents with
  | nil => rfl
  | cons parent rest ih =>
    have first : isWithinNamed host (.text parent) = .ok (isWithin host parent) := rfl
    rw [List.map_cons, isWithinAny, ih, first, List.any_cons]
    cases isWithin host parent <;> rfl

theorem proxies_texts {parents : List String} (known : links.proxyHosts = parents.map Data.text)
    (src : String) : links.proxies src =
      .ok ((hostOf src).any fun host => parents.any (isWithin host)) := by
  rw [proxies, known]
  cases hostOf src with
  | none => rfl
  | some host => exact isWithinAny_texts host parents

theorem sizeClasses_texts {classes : List String}
    (known : links.sizeClasses = classes.map Data.text) :
    links.sizeClasses.filterMap Data.text? = classes := by
  rw [known, List.filterMap_map]
  exact List.filterMap_some

/-- **Images are told apart by whole words and whole labels.**  With texts as size classes and as
known hosts, every image can be shown: as a picture just if a word of its classes is a size class;
it can be viewed just if it is a picture from the web; and it is fetched by the host program just if
its source is a web address whose host has the labels of a known host as its last labels. -/
theorem exists_image_classified (disabled : Bool) (tag : Tag) {classes parents : List String}
    (sizes : links.sizeClasses = classes.map Data.text)
    (known : links.proxyHosts = parents.map Data.text) :
    ∃ image, links.image disabled tag = .ok image ∧
      (image.isIcon = false ↔ ∃ name ∈ classes, IsWord name.toList (tag.attr "class").toList) ∧
      (image.clickable = true ↔ image.isIcon = false ∧ isWebUrl (tag.attr "src") = true) ∧
      (image.proxied = true ↔ ∃ host, hostOf (tag.attr "src") = some host ∧
        ∃ parent ∈ parents, labels parent <:+ labels host) := by
  rw [image, proxies_texts known, sizeClasses_texts sizes]
  refine ⟨_, rfl, ?_, ?_, ?_⟩
  · rw [Bool.not_eq_false', shares_classes_iff]
  · rw [Bool.and_eq_true, Bool.not_eq_true']
  · simp only [Option.any_eq_true, List.any_eq_true, isWithin_iff]

/-- An image of the given source, with a size class between other ones. -/
def sizedImage (src : String) : Tag :=
  ⟨"img", [("class", " round\timg-small xl "), ("src", src)]⟩

/-- A picture below a known host is fetched, and one of a host that merely ends in the characters of
a known one is not. -/
theorem exists_image_classified_lookAlike :
    standard.sizeClasses = ["img-large", "img-medium", "img-small"].map Data.text ∧
    standard.proxyHosts = ["dofusdb.fr", "ganymede-app.com"].map Data.text ∧
    (∃ image, standard.image false (sizedImage "https://CDN.dofusdb.fr:80/a.png") = .ok image ∧
      image.isIcon = false ∧ image.clickable = true ∧ image.proxied = true) ∧
    ∃ image, standard.image false (sizedImage "https://notdofusdb.fr/a.png") = .ok image ∧
      image.isIcon = false ∧ image.clickable = true ∧ image.proxied = false := by
  have sized : IsWord "img-small".toList " round\timg-small xl ".toList :=
    mem_words_iff.mp (by decide)
  have sizes : standard.sizeClasses =
    ["img-large", "img-medium", "img-small"].map Data.text := rfl
  have known : standard.proxyHosts = ["dofusdb.fr", "ganymede-app.com"].map Data.text := rfl
  refine ⟨sizes, known, ?_, ?_⟩
  · obtain ⟨image, made, isIcon, clickable, proxied⟩ :=
      exists_image_classified false (sizedImage "https://CDN.dofusdb.fr:80/a.png") sizes known
    have picture := isIcon.mpr ⟨"img-small", by decide, sized⟩
    exact ⟨image, made, picture, clickable.mpr ⟨picture, by decide +kernel⟩,
      proxied.mpr ⟨"cdn.dofusdb.fr", by decide +kernel, "dofusdb.fr", by decide,
        isWithin_iff.mp (by decide)⟩⟩
  · obtain ⟨image, made, isIcon, clickable, proxied⟩ :=
      exists_image_classified false (sizedImage "https://notdofusdb.fr/a.png") sizes known
    have host : hostOf ((sizedImage "https://notdofusdb.fr/a.png").attr "src") =
      some "notdofusdb.fr" := by decide +kernel
    have picture := isIcon.mpr ⟨"img-small", by decide, sized⟩
    refine ⟨image, made, picture, clickable.mpr ⟨picture, by decide +kernel⟩,
      Bool.eq_false_iff.mpr fun fetched => ?_⟩
    obtain ⟨found, served, parent, listed, within⟩ := proxied.mp fetched
    obtain rfl := Option.some.inj (host.symm.trans served)
    have outside : ∀ parent ∈ ["dofusdb.fr", "ganymede-app.com"],
      isWithin "notdofusdb.fr" parent = false := by decide
    exact absurd (isWithin_iff.mpr within) (by simp [outside parent listed])

end Links

end GuideMarkup
