/-
Base URLs.

A base URL should be clean: it should be there, have no blanks at either end, and not end in a
slash. An annotation gives it unless nothing is left of the annotation without its blanks and
slashes, and then the setting gives it. The blanks of an annotation are cut off first, then it is
asked whether anything is left, and the slashes are cut off last. So slashes that stand apart at
the end of an annotation, with a blank in front of them or with nothing, leave a base URL that
ends in a blank or is empty. Every other annotation gives the base URL that it should.
-/

import ClusterDiscovery.Pass.Basic
import ClusterDiscovery.Proofs.Text.Trim
import ClusterDiscovery.Proofs.World.Keeper

namespace ClusterDiscovery

/-- Where a request is sent. -/
def Http.Request.address : Http.Request → String
  | .form url _ => url
  | .query url _ _ => url

namespace Settings

open Text (isBlank isLoose trimSlashes)

structure IsClean (url : String) : Prop where
  nonempty : url ≠ ""
  starts : ∀ c ∈ url.toList.head?, isBlank c = false
  ends : ∀ c ∈ url.toList.getLast?, isBlank c = false ∧ c ≠ '/'

/-- A setting for a base URL has no blanks and something other than slashes. -/
structure IsUsable (setting : String) : Prop where
  unblank : ∀ c ∈ setting.toList, isBlank c = false
  present : ∃ c ∈ setting.toList, c ≠ '/'

/-- The base URL that an annotation and a setting ask for: what is left of the annotation without
its blanks and the slashes at its end, if anything is, and else the setting without the slashes at
its end. -/
def wantedUrl (override : Option String) (setting : String) : String :=
  ((override.map Text.strip).filter fun text => text != "").getD (trimSlashes setting)

/-- The last slashes of a text stand apart: only blanks are behind them, and nothing or a blank
is in front of them. -/
def HasStraySlashes (text : String) : Prop :=
  ∃ before slashes after, text.toList = before ++ slashes ++ after ∧ slashes ≠ [] ∧
    (∀ c ∈ slashes, c = '/') ∧ (∀ c ∈ after, isBlank c = true) ∧
    ∀ c ∈ before.getLast?, isBlank c = true

/-- A text is slashes between blanks. -/
def IsSlashes (text : String) : Prop :=
  ∃ before slashes after, text.toList = before ++ slashes ++ after ∧ slashes ≠ [] ∧
    (∀ c ∈ slashes, c = '/') ∧ (∀ c ∈ after, isBlank c = true) ∧ ∀ c ∈ before, isBlank c = true

/-- How the base URL of an endpoint follows from an annotation and a setting. -/
structure Follows (override : Option String) (setting url : String) : Prop where
  wanted : url = wantedUrl override setting ↔ ¬ ∃ text ∈ override, HasStraySlashes text
  clean : IsClean url ↔ ¬ ∃ text ∈ override, HasStraySlashes text
  lost : url = "" ↔ ∃ text ∈ override, IsSlashes text

variable {text setting key : String} {config : Config}

theorem isClean_trimSlashes (usable : IsUsable setting) : IsClean (trimSlashes setting) := by
  obtain ⟨back, parted, dropped⟩ := Text.exists_dropped (· == '/') setting.toList
  have kept : (trimSlashes setting).toList = Text.dropTrailing (· == '/') setting.toList :=
    String.toList_ofList
  have unblank (c : Char) (member : c ∈ (trimSlashes setting).toList) : isBlank c = false := by
    apply usable.unblank
    rw [parted, ← kept]
    exact List.mem_append_left _ member
  constructor
  · intro empty
    obtain ⟨c, member, different⟩ := usable.present
    have nothing := kept.symm.trans (String.toList_eq_nil_iff.mpr empty)
    have slash := Text.dropTrailing_eq_nil_iff.mp nothing c member
    exact different (eq_of_beq slash)
  · intro c first
    exact unblank c (List.mem_of_mem_head? first)
  · intro c last
    refine ⟨unblank c (List.mem_of_getLast? last), ?_⟩
    rw [kept] at last
    exact beq_eq_false_iff_ne.mp (Text.getLast?_dropTrailing c last)

theorem isClean_strip (present : Text.strip text ≠ "") : IsClean (Text.strip text) := by
  have remains := Text.toList_strip_eq_iff.mp (rfl : (Text.strip text).toList = _)
  exact ⟨present, remains.starts, fun c last =>
    Text.isLoose_eq_false_iff.mp (remains.ends c last)⟩

theorem isClean_wantedUrl (override : Option String) (usable : IsUsable setting) :
    IsClean (wantedUrl override setting) := by
  unfold wantedUrl
  cases found : (override.map Text.strip).filter fun text => text != "" with
  | none => exact isClean_trimSlashes usable
  | some url =>
      obtain ⟨isStripped, present⟩ := Option.filter_eq_some_iff.mp found
      obtain ⟨text, _, rfl⟩ := Option.map_eq_some_iff.mp isStripped
      exact isClean_strip (bne_iff_ne.mp present)

theorem annotationOr_of_absent (absent : config.metadata.annotation? key = none) :
    annotationOr config key setting = trimSlashes setting := by
  unfold annotationOr
  rw [absent]
  rfl

theorem annotationOr_of_blank (found : config.metadata.annotation? key = some text)
    (blank : Text.trim text = "") : annotationOr config key setting = trimSlashes setting := by
  unfold annotationOr
  rw [found]
  simp [Option.filter, blank]

theorem annotationOr_of_present (found : config.metadata.annotation? key = some text)
    (present : Text.trim text ≠ "") :
    annotationOr config key setting = trimSlashes (Text.trim text) := by
  unfold annotationOr
  rw [found]
  simp [Option.filter, present]

theorem toList_trimSlashes_trim (text : String) :
    (trimSlashes (Text.trim text)).toList =
      Text.dropTrailing (· == '/') (Text.trimChars text.toList) := by
  unfold trimSlashes Text.trim
  rw [String.toList_ofList, String.toList_ofList]

theorem trim_eq_empty_iff : Text.trim text = "" ↔ Text.trimChars text.toList = [] := by
  unfold Text.trim
  exact String.ofList_eq_empty_iff

theorem strip_of_blank (blank : Text.trim text = "") : Text.strip text = "" := by
  obtain ⟨⟨before, after, parted, lead, trail⟩, _, _⟩ :=
    Text.trimChars_eq_iff.mp (trim_eq_empty_iff.mp blank)
  rw [← String.toList_eq_nil_iff, Text.toList_strip_eq_iff]
  refine ⟨⟨before ++ after, [], ?_, ?_, by simp⟩, by simp, by simp⟩
  · rw [parted]
    simp
  · intro c member
    exact (List.mem_append.mp member).elim (lead c) (trail c)

/-- Slashes that stand apart are cut off after the blanks behind them, and what is in front of
them stays. -/
theorem cut_of_stray {before slashes after : List Char}
    (parted : text.toList = before ++ slashes ++ after) (present : slashes ≠ [])
    (slash : ∀ c ∈ slashes, c = '/') (trail : ∀ c ∈ after, isBlank c = true)
    (apart : ∀ c ∈ before.getLast?, isBlank c = true) :
    Text.trim text ≠ "" ∧
      (trimSlashes (Text.trim text)).toList = before.dropWhile isBlank := by
  have unblank (c : Char) (member : c ∈ slashes) : isBlank c = false := by
    rw [slash c member]
    decide
  have trimmed : Text.trimChars text.toList = before.dropWhile isBlank ++ slashes := by
    rw [Text.trimChars_eq_iff]
    refine ⟨⟨before.takeWhile isBlank, after, ?_, fun c => List.mem_takeWhile_imp, trail⟩, ?_, ?_⟩
    · rw [parted, ← List.append_assoc, List.takeWhile_append_dropWhile]
    · intro c first
      rw [List.head?_append, Option.mem_def, Option.or_eq_some_iff] at first
      rcases first with first | ⟨_, first⟩
      · exact Text.head?_dropWhile_blank first
      · exact unblank c (List.mem_of_mem_head? first)
    · intro c last
      obtain ⟨d, isLast⟩ := Option.ne_none_iff_exists'.mp (mt List.getLast?_eq_none_iff.mp present)
      rw [List.getLast?_append, isLast, Option.some_or, Option.mem_def, Option.some_inj] at last
      subst last
      exact unblank d (List.mem_of_getLast? isLast)
  constructor
  · rw [ne_eq, trim_eq_empty_iff, trimmed]
    exact fun empty => present (List.append_eq_nil_iff.mp empty).2
  · rw [toList_trimSlashes_trim, trimmed]
    refine Text.dropTrailing_eq_front (fun c last => ?_) fun c member => beq_iff_eq.mpr (slash c member)
    have blank := apart c (Text.getLast?_of_dropWhile last)
    rw [beq_eq_false_iff_ne]
    rintro rfl
    exact absurd blank (by decide)

/-- What both cuts take away of a text. -/
theorem exists_cut (text : String) : ∃ before slashes after,
    text.toList = before ++ (trimSlashes (Text.trim text)).toList ++ slashes ++ after ∧
      Text.trimChars text.toList = (trimSlashes (Text.trim text)).toList ++ slashes ∧
      (∀ c ∈ before, isBlank c = true) ∧ (∀ c ∈ slashes, c = '/') ∧
      ∀ c ∈ after, isBlank c = true := by
  obtain ⟨⟨before, after, parted, lead, trail⟩, _, _⟩ :=
    Text.trimChars_eq_iff.mp (rfl : Text.trimChars text.toList = _)
  obtain ⟨slashes, cut, slash⟩ := Text.exists_dropped (· == '/') (Text.trimChars text.toList)
  rw [← toList_trimSlashes_trim] at cut
  refine ⟨before, slashes, after, ?_, cut, lead, fun c member => eq_of_beq (slash c member), trail⟩
  rw [parted, cut, ← List.append_assoc]

theorem unblank_end_of_steady (present : Text.trim text ≠ "") (steady : ¬ HasStraySlashes text) :
    ∃ c ∈ (trimSlashes (Text.trim text)).toList.getLast?, isBlank c = false := by
  obtain ⟨before, slashes, after, parted, cut, lead, slash, trail⟩ := exists_cut text
  cases slashes with
  | nil =>
      have nonempty : Text.trimChars text.toList ≠ [] := mt trim_eq_empty_iff.mpr present
      have isLast := List.getLast?_eq_some_getLast nonempty
      rw [List.append_nil] at cut
      rw [← cut]
      have remains := Text.trimChars_eq_iff.mp (rfl : Text.trimChars text.toList = _)
      exact ⟨_, isLast, remains.ends _ isLast⟩
  | cons first rest =>
      by_contra loose
      refine steady ⟨_, first :: rest, after, parted, List.cons_ne_nil _ _, slash, trail, ?_⟩
      intro c last
      rw [List.getLast?_append, Option.mem_def, Option.or_eq_some_iff] at last
      rcases last with last | ⟨_, last⟩
      · by_contra unblank
        exact loose ⟨c, last, eq_false_of_ne_true unblank⟩
      · exact lead c (List.mem_of_getLast? last)

/-- Without slashes that stand apart both cuts leave what is left when all blanks and slashes at
the end of the text are dropped at once. -/
theorem strip_of_steady (present : Text.trim text ≠ "") (steady : ¬ HasStraySlashes text) :
    Text.strip text = trimSlashes (Text.trim text) ∧ Text.strip text ≠ "" := by
  obtain ⟨final, isLast, unblank⟩ := unblank_end_of_steady present steady
  obtain ⟨before, slashes, after, parted, cut, lead, slash, trail⟩ := exists_cut text
  have trimmed := Text.trimChars_eq_iff.mp (rfl : Text.trimChars text.toList = _)
  have remains : Text.Remains isLoose text.toList (trimSlashes (Text.trim text)).toList := by
    refine ⟨⟨before, slashes ++ after, ?_, lead, ?_⟩, ?_, ?_⟩
    · rw [parted, List.append_assoc _ slashes after]
    · intro c member
      unfold isLoose
      rw [Bool.or_eq_true, beq_iff_eq]
      exact (List.mem_append.mp member).symm.imp (trail c) (slash c)
    · intro c first
      refine trimmed.starts c ?_
      rw [Option.mem_def] at first ⊢
      rw [cut, List.head?_append, first, Option.some_or]
    · intro c last
      obtain rfl := Option.mem_unique isLast last
      rw [toList_trimSlashes_trim] at last
      have noSlash := Text.getLast?_dropTrailing final last
      exact Text.isLoose_eq_false_iff.mpr ⟨unblank, beq_eq_false_iff_ne.mp noSlash⟩
  have same : Text.strip text = trimSlashes (Text.trim text) :=
    String.toList_inj.mp (Text.toList_strip_eq_iff.mpr remains)
  refine ⟨same, ?_⟩
  rw [same]
  intro empty
  rw [empty] at isLast
  cases isLast

theorem IsSlashes.hasStraySlashes (slashes : IsSlashes text) : HasStraySlashes text := by
  obtain ⟨before, middle, after, parted, present, slash, trail, lead⟩ := slashes
  exact ⟨before, middle, after, parted, present, slash, trail, fun c last =>
    lead c (List.mem_of_getLast? last)⟩

theorem annotationOr_of_steady (found : config.metadata.annotation? key = some text)
    (steady : ¬ HasStraySlashes text) :
    annotationOr config key setting = wantedUrl (some text) setting := by
  unfold wantedUrl
  by_cases blank : Text.trim text = ""
  · rw [annotationOr_of_blank found blank, Option.map_some, strip_of_blank blank]
    rfl
  · obtain ⟨same, present⟩ := strip_of_steady blank steady
    rw [annotationOr_of_present found blank, ← same]
    simp [Option.filter, present]

theorem not_isClean_of_stray (found : config.metadata.annotation? key = some text)
    (stray : HasStraySlashes text) : ¬ IsClean (annotationOr config key setting) := by
  obtain ⟨before, slashes, after, parted, slashed, slash, trail, apart⟩ := stray
  obtain ⟨present, kept⟩ := cut_of_stray parted slashed slash trail apart
  rw [annotationOr_of_present found present]
  intro clean
  have nonempty := mt String.toList_eq_nil_iff.mp clean.nonempty
  obtain ⟨c, isLast⟩ := Option.ne_none_iff_exists'.mp (mt List.getLast?_eq_none_iff.mp nonempty)
  have unblank : isBlank c = false := (clean.ends c isLast).1
  rw [kept] at isLast
  rw [apart c (Text.getLast?_of_dropWhile isLast)] at unblank
  cases unblank

theorem annotationOr_eq_empty_iff (found : config.metadata.annotation? key = some text)
    (stray : HasStraySlashes text) :
    annotationOr config key setting = "" ↔ IsSlashes text := by
  constructor
  · intro empty
    obtain ⟨before, slashes, after, parted, slashed, slash, trail, apart⟩ := stray
    obtain ⟨present, kept⟩ := cut_of_stray parted slashed slash trail apart
    rw [annotationOr_of_present found present] at empty
    rw [empty] at kept
    exact ⟨before, slashes, after, parted, slashed, slash, trail,
      Text.dropWhile_eq_nil_iff.mp kept.symm⟩
  · intro ⟨before, slashes, after, parted, slashed, slash, trail, lead⟩
    obtain ⟨present, kept⟩ := cut_of_stray parted slashed slash trail fun c last =>
      lead c (List.mem_of_getLast? last)
    rw [annotationOr_of_present found present, ← String.toList_eq_nil_iff, kept]
    exact Text.dropWhile_eq_nil_iff.mpr lead

theorem follows_of_wanted {override : Option String} {url : String} (usable : IsUsable setting)
    (same : url = wantedUrl override setting)
    (steady : ¬ ∃ text ∈ override, HasStraySlashes text) : Follows override setting url where
  wanted := iff_of_true same steady
  clean := iff_of_true (same ▸ isClean_wantedUrl override usable) steady
  lost := by
    refine iff_of_false (same ▸ (isClean_wantedUrl override usable).nonempty) ?_
    intro ⟨text, given, slashes⟩
    exact steady ⟨text, given, slashes.hasStraySlashes⟩

theorem follows_annotationOr (config : Config) (key : String) (usable : IsUsable setting) :
    Follows (config.metadata.annotation? key) setting (annotationOr config key setting) := by
  cases found : config.metadata.annotation? key with
  | none => exact follows_of_wanted usable (annotationOr_of_absent found) (by simp)
  | some text =>
      by_cases stray : HasStraySlashes text
      · have unclean : ¬ IsClean (annotationOr config key setting) :=
          not_isClean_of_stray found stray
        have given : ∃ known ∈ some text, HasStraySlashes known := ⟨text, rfl, stray⟩
        refine ⟨iff_of_false ?_ (not_not_intro given), iff_of_false unclean (not_not_intro given),
          ?_⟩
        · intro same
          rw [same] at unclean
          exact unclean (isClean_wantedUrl _ usable)
        · rw [annotationOr_eq_empty_iff found stray]
          simp
      · refine follows_of_wanted usable (annotationOr_of_steady found stray) ?_
        simpa using stray

theorem exists_clean_base_iff {url path : String} :
    (∃ base, IsClean base ∧ url ++ path = base ++ path) ↔ IsClean url := by
  constructor
  · intro ⟨base, clean, same⟩
    rw [String.append_left_inj] at same
    rw [same]
    exact clean
  · intro clean
    exact ⟨url, clean, rfl⟩

/-- The base URLs of both endpoints are clean, and the ones asked for, exactly if no slashes stand
apart at the end of the annotation, and they are empty exactly if the annotation is nothing but
slashes between blanks. So a request of a token or of a page goes to the path behind a clean base
URL unless the annotation ends in such slashes. -/
theorem base_urls_are_clean_exactly (settings : Settings) (config : Config)
    (usableInventory : IsUsable settings.inventoryUrl) (usableAuth : IsUsable settings.authUrl) :
    Follows (config.metadata.annotation? inventoryAnnotation) settings.inventoryUrl
      (settings.inventoryUrlFor config) ∧
    Follows (config.metadata.annotation? authAnnotation) settings.authUrl
      (settings.authUrlFor config) ∧
    (∀ method, (∃ base, IsClean base ∧
        (Token.request ⟨method, settings.authUrlFor config⟩).address = base ++ Token.path) ↔
      ¬ ∃ text ∈ config.metadata.annotation? authAnnotation, HasStraySlashes text) ∧
    ∀ token search number, (∃ base, IsClean base ∧
        ((Pass.listingRequest settings config token search).page number).address =
          base ++ Inventory.path) ↔
      ¬ ∃ text ∈ config.metadata.annotation? inventoryAnnotation, HasStraySlashes text := by
  have inventory : Follows _ _ (settings.inventoryUrlFor config) :=
    follows_annotationOr config inventoryAnnotation usableInventory
  have auth : Follows _ _ (settings.authUrlFor config) :=
    follows_annotationOr config authAnnotation usableAuth
  refine ⟨inventory, auth, fun method => ?_, fun token search number => ?_⟩
  · exact exists_clean_base_iff.trans auth.clean
  · exact exists_clean_base_iff.trans inventory.clean

section Sample

private def annotated (inventory auth : String) : Config :=
  { Sample.config with metadata := { Sample.config.metadata with
    annotations := some
      ((Keyed.empty.insert inventoryAnnotation inventory).insert authAnnotation auth) } }

private theorem isUsable_of_all (unblank : setting.toList.all (fun c => !isBlank c) = true)
    (present : setting.toList.any (· != '/') = true) : IsUsable setting where
  unblank := fun c member => by simpa using List.all_eq_true.mp unblank c member
  present := by simpa using present

private theorem isUsable_standard :
    IsUsable standard.inventoryUrl ∧ IsUsable standard.authUrl :=
  ⟨isUsable_of_all (by decide +kernel) (by decide +kernel),
    isUsable_of_all (by decide +kernel) (by decide +kernel)⟩

/-- An annotation with blanks around it and a slash at its end is followed, and one of a slash
alone loses the base URL. -/
theorem base_urls_are_clean_exactly_sample :
    (IsUsable standard.inventoryUrl ∧ IsUsable standard.authUrl) ∧
      standard.inventoryUrlFor (annotated " http://mock-ocm:3000/ " "/") =
        "http://mock-ocm:3000" ∧
      wantedUrl (some " http://mock-ocm:3000/ ") standard.inventoryUrl = "http://mock-ocm:3000" ∧
      ¬ HasStraySlashes " http://mock-ocm:3000/ " ∧ IsSlashes "/" ∧
      standard.authUrlFor (annotated " http://mock-ocm:3000/ " "/") = "" := by
  obtain ⟨inventory, auth, _, _⟩ := base_urls_are_clean_exactly standard
    (annotated " http://mock-ocm:3000/ " "/") isUsable_standard.1 isUsable_standard.2
  have given : (annotated " http://mock-ocm:3000/ " "/").metadata.annotation?
      inventoryAnnotation = some " http://mock-ocm:3000/ " := by decide +kernel
  have alsoGiven : (annotated " http://mock-ocm:3000/ " "/").metadata.annotation?
      authAnnotation = some "/" := by decide +kernel
  rw [given] at inventory
  rw [alsoGiven] at auth
  have followed : wantedUrl (some " http://mock-ocm:3000/ ") standard.inventoryUrl =
      "http://mock-ocm:3000" := by decide +kernel
  have url : standard.inventoryUrlFor (annotated " http://mock-ocm:3000/ " "/") =
      "http://mock-ocm:3000" := by decide +kernel
  have steady := inventory.wanted.mp (url.trans followed.symm)
  have slashes : IsSlashes "/" :=
    ⟨[], ['/'], [], by decide, List.cons_ne_nil _ _, by simp, by simp, by simp⟩
  exact ⟨isUsable_standard, url, followed, fun stray => steady ⟨_, rfl, stray⟩, slashes,
    auth.lost.mpr ⟨_, rfl, slashes⟩⟩

/-- A slash alone leaves an empty base URL in place of the setting, so that a page is asked for
under its bare path, and a slash behind a blank leaves the blank. -/
theorem slashes_spoil_base_url :
    (IsUsable standard.inventoryUrl ∧ IsUsable standard.authUrl) ∧
      wantedUrl (some "/") standard.inventoryUrl = "https://api.openshift.com" ∧
      standard.inventoryUrlFor (annotated "/" "http://mock-sso /") = "" ∧
      ((Pass.listingRequest standard (annotated "/" "http://mock-sso /") "access" none).page
        1).address = Inventory.path ∧
      wantedUrl (some "http://mock-sso /") standard.authUrl = "http://mock-sso" ∧
      standard.authUrlFor (annotated "/" "http://mock-sso /") = "http://mock-sso " := by
  exact ⟨isUsable_standard, by decide +kernel, by decide +kernel, by decide +kernel,
    by decide +kernel, by decide +kernel⟩

end Sample

end Settings

end ClusterDiscovery
