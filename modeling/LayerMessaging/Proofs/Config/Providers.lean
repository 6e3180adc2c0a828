import Mathlib.Data.List.Forall2
import LayerMessaging.Proofs.Config.Resolution
import LayerMessaging.Rpc.Client

namespace LayerMessaging

/-- Parsing the text of the URL gives the URL. There are URLs that were parsed and do not read back:
that of `file://A//a:` is written `file://a/a:`, which is taken for a drive without a host. -/
def Url.ReadsBack (url : Url) : Prop := Url.parse url.text = .ok url

instance (url : Url) : Decidable url.ReadsBack :=
  inferInstanceAs (Decidable (Url.parse url.text = .ok url))

namespace Rpc.Client

/-- Texts of URLs that read back are not left out. -/
theorem validUrls_map_text {urls : List Url} (h : ∀ url ∈ urls, url.ReadsBack) :
    validUrls (urls.map Url.text) = urls := by
  unfold validUrls
  rw [List.filterMap_map]
  induction urls with
  | nil => rfl
  | cons url urls ih =>
    obtain ⟨hurl, hurls⟩ := List.forall_mem_cons.mp h
    have hparse : ((fun text => (Url.parse text).toOption) ∘ Url.text) url = some url := by
      rw [Function.comp_apply, show Url.parse url.text = .ok url from hurl]
      rfl
    rw [List.filterMap_cons_some hparse, ih hurls]

/-- The nodes of the client are numbered in the order of the settings. -/
theorem exists_ofSettings {settings : ChainSettings} {url : Url}
    (h : Url.parse settings.rpcUrl = .ok url) :
    ∃ client, ofSettings settings = .ok client ∧ client.settings = settings ∧
      client.providers = (url :: validUrls settings.failoverUrls).mapIdx Provider.mk := by
  unfold ofSettings
  rw [h]
  refine ⟨_, rfl, rfl, ?_⟩
  rw [providers, List.mapIdx_cons]

end Rpc.Client

namespace Config

open Rpc

variable {config : Config} {requirement : Requirement} {lookup : Lookup} {endpoint : Endpoint}

theorem applyTo_frame (config : Config) (settings : ChainSettings) :
    { config.applyTo settings with
      rpcUrl := settings.rpcUrl
      failoverUrls := settings.failoverUrls
      chainId := settings.chainId } = settings := by
  unfold applyTo
  cases config.endpoint <;> rfl

theorem applyTo_applyTo (config : Config) (settings : ChainSettings) :
    config.applyTo (config.applyTo settings) = config.applyTo settings := by
  cases hendpoint : config.endpoint with
  | none => simp only [applyTo, hendpoint]
  | some endpoint =>
    have hchain : endpoint.chainId.or (endpoint.chainId.or settings.chainId) =
        endpoint.chainId.or settings.chainId := by
      rw [← Option.or_assoc, Option.or_self]
    simp only [applyTo, hendpoint, Option.orElse_eq_orElse, Option.orElse_eq_or, hchain]
    split <;> rfl

theorem rpcUrl_applyTo (h : config.endpoint = some endpoint) (settings : ChainSettings) :
    (config.applyTo settings).rpcUrl = endpoint.rpcUrl.text := by
  simp only [applyTo, h]

theorem failoverUrls_applyTo (h : config.endpoint = some endpoint) (settings : ChainSettings) :
    (config.applyTo settings).failoverUrls =
      if endpoint.failoverUrls = [] then settings.failoverUrls
      else endpoint.failoverUrls.map Url.text := by
  simp only [applyTo, h]

theorem chainId_applyTo (h : config.endpoint = some endpoint) (settings : ChainSettings) :
    (config.applyTo settings).chainId = endpoint.chainId.or settings.chainId := by
  simp only [applyTo, h, Option.orElse_eq_orElse, Option.orElse_eq_or]

theorem validUrls_applyTo (h : config.endpoint = some endpoint)
    (hreads : ∀ url ∈ endpoint.failoverUrls, url.ReadsBack) (settings : ChainSettings) :
    Client.validUrls (config.applyTo settings).failoverUrls =
      if endpoint.failoverUrls = [] then Client.validUrls settings.failoverUrls
      else endpoint.failoverUrls := by
  rw [failoverUrls_applyTo h]
  split
  · rfl
  · exact Client.validUrls_map_text hreads

def failoverTexts (lookup : Lookup) : List String :=
  match given lookup failoverUrlsKey with
  | none => []
  | some text =>
    ((Text.splitChars (· = ',') text.toList).filter (! ·.all Text.isBlank)).map String.ofList

theorem forall₂_of_mapM_eq_some {α β : Type} {f : α → Option β} {as : List α} {bs : List β}
    (h : as.mapM f = some bs) : List.Forall₂ (fun a b => f a = some b) as bs := by
  induction as generalizing bs with
  | nil =>
    cases h
    exact .nil
  | cons a as ih =>
    rw [List.mapM_cons] at h
    obtain ⟨b, hb, h⟩ := Option.bind_eq_some_iff.mp h
    obtain ⟨bs', hbs, h⟩ := Option.bind_eq_some_iff.mp h
    cases h
    exact .cons hb (ih hbs)

/-- Every text of the list is a URL of the endpoint, in its place. -/
theorem forall₂_failoverTexts (h : endpoint.Names lookup) :
    List.Forall₂ (fun text url => urlOf? text = some url) (failoverTexts lookup)
      endpoint.failoverUrls := by
  have hurls := h.failoverUrls
  unfold failoverTexts
  cases hgiven : given lookup failoverUrlsKey with
  | none =>
    rw [hgiven, Option.elim_none] at hurls
    rw [← Option.some.inj hurls]
    exact .nil
  | some text =>
    rw [hgiven, Option.elim_some, urlsOf?] at hurls
    apply forall₂_of_mapM_eq_some
    rw [List.mapM_map, Function.comp_def]
    exact hurls

theorem failoverUrls_eq_nil_iff (h : endpoint.Names lookup) :
    endpoint.failoverUrls = [] ↔ failoverTexts lookup = [] := by
  rw [← List.length_eq_zero_iff, ← List.length_eq_zero_iff, (forall₂_failoverTexts h).length_eq]

theorem chainId_eq_bind (h : endpoint.Names lookup) :
    endpoint.chainId = (given lookup chainIdKey).bind chainIdOf? := by
  have hchain := h.chainId
  cases hgiven : given lookup chainIdKey with
  | none =>
    rw [hgiven, Option.elim_none] at hchain
    rw [← Option.some.inj hchain, Option.bind_none]
  | some text =>
    rw [hgiven, Option.elim_some] at hchain
    obtain ⟨chainId, hmeans, hsome⟩ := Option.map_eq_some_iff.mp hchain
    rw [Option.bind_some, hmeans, hsome]

theorem names_of_ofLookup (h : ofLookup requirement lookup = .ok config) :
    config.Names requirement lookup := by
  have hresolution := resolution_ofLookup requirement lookup
  rw [h] at hresolution
  cases hresolution with
  | resolved _ _ hnames => exact hnames

/-- An endpoint whose URLs read back is laid over settings. Then there is a client, and its nodes
are that of the URL named and behind it those of all the failover URLs listed, in order; if none is
listed, they are those of the settings' failover texts that are URLs. Nothing but these texts and
the chain is other than in the settings, and the chain only if one is named. Laying the endpoint
over once more changes nothing. -/
theorem overlay_reaches_named_nodes (hconfig : ofLookup requirement lookup = .ok config)
    (hendpoint : config.endpoint = some endpoint)
    (hreads : ∀ url ∈ endpoint.rpcUrl :: endpoint.failoverUrls, url.ReadsBack)
    (settings : ChainSettings) :
    (given lookup rpcUrlKey).bind urlOf? = some endpoint.rpcUrl ∧
    List.Forall₂ (fun text url => urlOf? text = some url) (failoverTexts lookup)
      endpoint.failoverUrls ∧
    (∃ client, Client.ofSettings (config.applyTo settings) = .ok client ∧
      client.settings = config.applyTo settings ∧
      client.providers = (endpoint.rpcUrl :: (if failoverTexts lookup = []
        then settings.failoverUrls.filterMap fun text => (Url.parse text).toOption
        else endpoint.failoverUrls)).mapIdx Provider.mk) ∧
    { config.applyTo settings with
      rpcUrl := settings.rpcUrl
      failoverUrls := settings.failoverUrls
      chainId := settings.chainId } = settings ∧
    (config.applyTo settings).chainId =
      ((given lookup chainIdKey).bind chainIdOf?).or settings.chainId ∧
    config.applyTo (config.applyTo settings) = config.applyTo settings := by
  have hnames := (names_of_ofLookup hconfig).endpoint endpoint hendpoint
  obtain ⟨hprimary, hfailovers⟩ := List.forall_mem_cons.mp hreads
  refine ⟨hnames.rpcUrl, forall₂_failoverTexts hnames, ?_, applyTo_frame config settings, ?_,
    applyTo_applyTo config settings⟩
  · have hparse : Url.parse (config.applyTo settings).rpcUrl = .ok endpoint.rpcUrl := by
      rw [rpcUrl_applyTo hendpoint]
      exact hprimary
    obtain ⟨client, hclient, hsettings, hproviders⟩ := Client.exists_ofSettings hparse
    refine ⟨client, hclient, hsettings, ?_⟩
    rw [hproviders, validUrls_applyTo hendpoint hfailovers]
    simp only [failoverUrls_eq_nil_iff hnames]
    rfl
  · rw [chainId_applyTo hendpoint, chainId_eq_bind hnames]

def spacedTexts : Lookup := fun key =>
  if key = rpcUrlKey then some " HTTP://Node0:80 "
  else if key = privateKeyKey then some "1"
  else if key = failoverUrlsKey then some " http://node1:8545 ,, https://NODE2/a/../b ,"
  else none

def spacedEndpoint : Endpoint where
  rpcUrl := ⟨"http", some ⟨"", none, some (.name "node0"), none⟩, "/", none, none⟩
  failoverUrls :=
    [⟨"http", some ⟨"", none, some (.name "node1"), some 8545⟩, "/", none, none⟩,
     ⟨"https", some ⟨"", none, some (.name "node2"), none⟩, "/b", none, none⟩]
  privateKey := ⟨"1"⟩
  chainId := none

theorem spacedTexts_reach_three_nodes :
    ofLookup .endpoint spacedTexts = .ok ⟨some spacedEndpoint, none⟩ ∧
    (∀ url ∈ spacedEndpoint.rpcUrl :: spacedEndpoint.failoverUrls, url.ReadsBack) ∧
    ∀ settings, ∃ client,
      Client.ofSettings (Config.applyTo ⟨some spacedEndpoint, none⟩ settings) = .ok client ∧
      client.providers.map (·.url.text) =
        ["http://node0/", "http://node1:8545/", "https://node2/b"] := by
  have hconfig : ofLookup .endpoint spacedTexts = .ok ⟨some spacedEndpoint, none⟩ := by
    decide +kernel
  have hreads : ∀ url ∈ spacedEndpoint.rpcUrl :: spacedEndpoint.failoverUrls, url.ReadsBack := by
    decide +kernel
  refine ⟨hconfig, hreads, fun settings => ?_⟩
  obtain ⟨-, -, ⟨client, hclient, -, hproviders⟩, -⟩ :=
    overlay_reaches_named_nodes hconfig rfl hreads settings
  refine ⟨client, hclient, ?_⟩
  rw [hproviders, if_neg (by decide +kernel)]
  decide +kernel

end Config

end LayerMessaging
