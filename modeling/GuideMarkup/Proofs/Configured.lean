import GuideMarkup.Proofs.Overriding
import GuideMarkup.Proofs.Spelling

/-!
# Proofs/Configured — when a configured origin is trusted

    member   https://Example.com//     ──slashes off──▸   https://Example.com
    address  https://EXAMPLE.com:80/x  ──its origin──▸    https://example.com

The two are compared as texts.  A member gets rid of the slashes at its end only, whereas the origin
of an address has its host in small letters and without brackets; so a member is worth something
just if it is written like an origin already (`Address.Parts.trimOrigin_text_eq_root_iff`).
-/

namespace GuideMarkup

variable {ctx : Context} {url origin : String} {origins : List String}

/-! ## Addresses that are followed -/

/-- **An address is followed**: it is trusted, and every anchor that leads to it is kept. -/
structure Context.Follows (ctx : Context) (url : String) : Prop where
  trusted : ctx.trusts url = .ok true
  kept : ∀ site : Site, site.tag.name = "a" → site.tag.attr "href" = url →
    ∃ build, decideAnchor ctx site = .render .all build ∧
      ∀ nodes, build nodes = .ok (.mk (.anchor ⟨url, true, ctx.disabled⟩) nodes)

/-- An address with an origin is followed just if the origin is on the whitelist. -/
theorem Context.follows_iff (reads : originOf url = some origin)
    (known : ctx.whitelist = some origins) : ctx.Follows url ↔ origin ∈ origins := by
  constructor
  · rintro ⟨trusted, -⟩
    rw [trusts_eq known reads] at trusted
    exact List.contains_iff_mem.mp (Except.ok.inj trusted)
  · intro member
    have listed : origins.contains origin = true := List.contains_iff_mem.mpr member
    refine ⟨by rw [trusts_eq known reads, listed], fun site name leads => ?_⟩
    have web : isWebUrl url = true := isWebUrl_iff_originOf.mpr (by rw [reads]; rfl)
    have accepted : ctx.distrusts url = .ok false := by
      rw [distrusts_eq known reads, listed]
      rfl
    rw [decideAnchor, if_neg (by simp [name])]
    refine ⟨_, rfl, fun nodes => ?_⟩
    rw [leads, accepted, web]
    rfl

/-- The address is followed under the whitelist of the configuration. -/
def Config.Follows (config : Config) (url : String) : Prop :=
  ∃ origins, config.whitelist = .ok origins ∧
    ∀ ctx : Context, ctx.whitelist = some origins → ctx.Follows url

/-! ## Whitelists -/

section Whitelists

variable {config : Config} {items : List Data}

theorem Data.members_list (items : List Data) : (Data.list items).members = .ok items := by
  cases items <;> rfl

theorem Config.whitelist_of_list
    (listed : (config.part .whitelist).named? "origins" = some (.list items)) :
    config.whitelist = items.mapM originEntry := by
  rw [whitelist, listed, Option.getD_some, Data.members_list]
  rfl

theorem Config.originEntry_eq_ok_iff {value : Data} :
    originEntry value = .ok origin ↔ ∃ name, value = .text name ∧ trimOrigin name = origin := by
  cases value <;> simp [originEntry]

/-- The origins that a list gives are those of its texts, slashes at the end apart. -/
theorem Config.mem_whitelist_iff (reads : items.mapM originEntry = .ok origins) :
    origin ∈ origins ↔ ∃ name, .text name ∈ items ∧ trimOrigin name = origin := by
  have pairs := mapM_eq_ok_iff.mp reads
  clear reads
  induction pairs with
  | nil => simp
  | @cons item result rest others first _ ih =>
    obtain ⟨name, rfl, rfl⟩ := originEntry_eq_ok_iff.mp first
    simp only [List.mem_cons, ih, Data.text.injEq, or_and_right, exists_or, exists_eq_left,
      eq_comm (a := origin)]

/-- **An address is followed under a configuration** just if the list has nothing but texts, and one
of them is its origin, slashes at the end apart. -/
theorem Config.follows_iff (listed : (config.part .whitelist).named? "origins" = some (.list items))
    (reads : originOf url = some origin) :
    config.Follows url ↔ (∀ item ∈ items, ∃ name, item = .text name) ∧
      ∃ name, .text name ∈ items ∧ trimOrigin name = origin := by
  rw [Follows, whitelist_of_list listed]
  constructor
  · rintro ⟨origins, made, follows⟩
    have member := (Context.follows_iff reads rfl).mp
      (follows { Context.preview with whitelist := some origins } rfl)
    refine ⟨fun item inList => exists_originEntry_iff.mp ?_, (mem_whitelist_iff made).mp member⟩
    exact exists_mapM_iff.mp ⟨origins, made⟩ item inList
  · rintro ⟨texts, spelled⟩
    obtain ⟨origins, made⟩ :=
      exists_mapM_iff.mpr fun item inList => exists_originEntry_iff.mpr (texts item inList)
    exact ⟨origins, made, fun ctx known =>
      (Context.follows_iff reads known).mpr ((mem_whitelist_iff made).mpr spelled)⟩

end Whitelists

/-! ## Members of the list -/

/-- What does not end in a slash loses only the slashes that are put behind it. -/
theorem Config.trimOrigin_append {init slashes : List Char} {last : Char} (ends : last ≠ '/')
    (all : ∀ c ∈ slashes, c = '/') :
    trimOrigin (String.ofList (init ++ [last] ++ slashes)) = String.ofList (init ++ [last]) := by
  rw [trimOrigin, String.toList_ofList, List.reverse_append, List.dropWhile_append_of_pos,
    List.reverse_append, List.reverse_singleton, List.singleton_append,
    List.dropWhile_cons_of_neg (by simpa using ends), List.reverse_cons, List.reverse_reverse]
  exact fun c member => beq_iff_eq.mpr (all c (List.mem_reverse.mp member))

namespace Address

/-- A host is written without a slash at its end. -/
theorem Writes.exists_last {host written : List Char} (writes : Writes host written) :
    ∃ init last, written = init ++ [last] ∧ last ≠ '/' := by
  have nonempty : written ≠ [] := by
    cases writes with
    | name nonempty apart => exact nonempty
    | bracketed sound apart => exact List.cons_ne_nil _ _
  refine ⟨written.dropLast, written.getLast nonempty,
    (List.dropLast_append_getLast nonempty).symm, fun slash => ?_⟩
  exact writes.apart _ (List.getLast_mem nonempty) (by rw [slash]; decide)

/-- **What a member of the list comes to**: its scheme and its host, as it is written. -/
theorem Parts.trimOrigin_text (entry : Parts) (user : entry.user = []) (port : entry.port = [])
    (slashes : ∀ c ∈ entry.tail, c = '/') : Config.trimOrigin (String.ofList entry.text) =
      String.ofList (entry.scheme ++ "://".toList ++ entry.written) := by
  obtain ⟨init, last, written, ends⟩ := entry.writes.exists_last
  have text : entry.text = entry.scheme ++ "://".toList ++ init ++ [last] ++ entry.tail := by
    rw [Parts.text, authority, place, user, port, written]
    simp
  rw [text, Config.trimOrigin_append ends slashes, written]
  simp

/-- It is the origin of the address just if the host is a name that is written in small letters. -/
theorem Parts.trimOrigin_text_eq_root_iff (entry : Parts) (user : entry.user = [])
    (port : entry.port = []) (slashes : ∀ c ∈ entry.tail, c = '/') :
    Config.trimOrigin (String.ofList entry.text) = String.ofList entry.root ↔
      entry.written = entry.host ∧ smallHost entry.host = entry.host := by
  rw [entry.trimOrigin_text user port slashes, root, String.ofList_inj, List.append_cancel_left_eq,
    entry.writes.eq_smallHost_iff]

end Address

/-! ## Configured origins -/

/-- **When a configured origin is trusted**: an address of the scheme and host of a member, however
both are written, is followed just if the list has nothing but texts, and the host of the member is
a name in small letters, or some other member comes to the origin of the address. -/
theorem Config.follows_configured {files : Section → Option UserFile} {config : Config}
    {value : Data} {user : Fields} {items : List Data} {entry link : Address.Parts}
    (loaded : load files = .ok config) (holds : files .whitelist = some (.holds value))
    (contributed : value.entries = .ok user)
    (listed : Fields.named? (Table.ofEntries user) "origins" = some (.list items))
    (configured : .text (String.ofList entry.text) ∈ items)
    (bare : entry.user = [] ∧ entry.port = []) (slashes : ∀ c ∈ entry.tail, c = '/')
    (same : link.root = entry.root) :
    config.Follows (String.ofList link.text) ↔
      (∀ item ∈ items, ∃ name, item = .text name) ∧
        (entry.written = entry.host ∧ Address.smallHost entry.host = entry.host ∨
          ∃ name, .text name ∈ items ∧ name ≠ String.ofList entry.text ∧
            trimOrigin name = String.ofList link.root) := by
  have own : (config.part .whitelist).named? "origins" = some (.list items) := by
    have isUnder := isUnder_of_override (override_of_load loaded .whitelist)
    rw [Fields.named?, isUnder.merged value user holds contributed, ← Fields.named?, listed]
    rfl
  rw [follows_iff own link.originOf_text, same,
    ← entry.trimOrigin_text_eq_root_iff bare.1 bare.2 slashes]
  refine and_congr_right fun _ => ⟨fun ⟨name, member, spelled⟩ => ?_, ?_⟩
  · by_cases isEntry : name = String.ofList entry.text
    · exact Or.inl (isEntry ▸ spelled)
    · exact Or.inr ⟨name, member, isEntry, spelled⟩
  · rintro (spelled | ⟨name, member, -, spelled⟩)
    · exact ⟨_, configured, spelled⟩
    · exact ⟨name, member, spelled⟩

/-! ### Two origins of a user's own -/

/-- An origin with slashes at its end. -/
def Address.Parts.mine : Parts where
  scheme := "https".toList
  user := []
  host := "a.io".toList
  written := "a.io".toList
  port := []
  tail := "//".toList
  isScheme := Or.inr rfl
  isUser := Or.inl rfl
  writes := .name (by decide) (Address.apart_of_all (by decide))
  isPort := Or.inl rfl
  isTail := Or.inr ⟨'/', ['/'], rfl, rfl⟩

/-- A page of that origin, in other letters and at a port. -/
def Address.Parts.page : Parts where
  scheme := "https".toList
  user := []
  host := "A.io".toList
  written := "A.io".toList
  port := ":8443".toList
  tail := "/x?y#z".toList
  isScheme := Or.inr rfl
  isUser := Or.inl rfl
  writes := .name (by decide) (Address.apart_of_all (by decide))
  isPort := Or.inr ⟨"8443".toList, rfl, List.all_eq_true.mp (by decide)⟩
  isTail := Or.inr ⟨'/', "x?y#z".toList, rfl, rfl⟩

/-- The user's file: two origins, the second of which is written with a capital. -/
def ownOrigins : Fields :=
  [("origins", .list [.text "https://a.io//", .text "https://B.io"])]

/-- The configuration with the user's origins. -/
def Config.own : Config :=
  ⟨fun
    | .whitelist => ownOrigins
    | part => part.packaged⟩

/-- The page is followed. -/
theorem Config.follows_configured_page :
    load (Section.whitelist.only (.object ownOrigins)) = .ok own ∧
      own.Follows "https://A.io:8443/x?y#z" := by
  have loaded : load (Section.whitelist.only (.object ownOrigins)) = .ok own := by
    have parts : load (Section.whitelist.only (.object ownOrigins)) = .ok ⟨_⟩ := rfl
    refine parts.trans (congrArg (fun part => Except.ok (Config.mk part)) (funext fun part => ?_))
    cases part <;> rfl
  have same : Address.Parts.page.root = Address.Parts.mine.root := by decide +kernel
  have follows := @follows_configured _ _ _ _ _ .mine .page loaded rfl
    (Data.entries_object ownOrigins) rfl List.mem_cons_self ⟨rfl, rfl⟩
    (by simp [Address.Parts.mine]) same
  exact ⟨loaded, follows.mpr ⟨by simp, Or.inl ⟨rfl, by decide +kernel⟩⟩⟩

/-- A host that is configured with a capital, or in brackets, is never trusted. -/
theorem Config.not_follows_capital : ∃ config,
    load (Section.whitelist.only (.object [("origins",
      .list [.text "https://B.io", .text "https://[::1]/"])])) = .ok config ∧
      ∃ origins, config.whitelist = .ok origins ∧
        ∀ ctx : Context, ctx.whitelist = some origins →
          ctx.trusts "https://B.io/x" = .ok false ∧
            ctx.trusts "https://[::1]/x" = .ok false := by
  refine ⟨_, rfl, ["https://B.io", "https://[::1]"], rfl, fun ctx known => ?_⟩
  have name : originOf "https://B.io/x" = some "https://b.io" := by decide +kernel
  have literal : originOf "https://[::1]/x" = some "https://::1" := by decide +kernel
  rw [Context.trusts, Context.trusts, name, literal]
  simp only [Context.allows, known]
  exact ⟨rfl, rfl⟩

end GuideMarkup
