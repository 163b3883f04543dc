import PolicyGate.Document.Content
import PolicyGate.Policy.Check
import PolicyGate.Policy.PatternGroup
import PolicyGate.Policy.Target
import PolicyGate.Regex.Escape

/-!
# Intents

An intent is what a policy can demand of a kind of action: a field of the policy, and the check that its
value asks for. Values that demand nothing (a lowered flag, an empty list or text) ask for no check.
-/

namespace PolicyGate

/-- Why an entry of a document cannot become a check or a target. -/
inductive Unusable where
  | unknownType (name : String)
  | noPath (type : String)
  | noPattern
  | noValues
  | noKeys
  | noExpected (type : String)
  | unknownNormalizer (name : String)
  | badPattern (text : String) (fault : Regex.Fault)
  /-- A pattern is well formed by itself, but not where it is put. -/
  | notEmbeddable (text : String) (whole : String) (fault : Regex.Fault)
  | target (cause : TargetError)
deriving DecidableEq, Repr

/-- The cause in words. -/
def Unusable.message : Unusable → String
  | .unknownType name => "unknown check type " ++ Quoted.text name
  | .noPath type => type ++ " check has no path"
  | .noPattern => "regex check has no pattern"
  | .noValues => "allowedValues check has no values"
  | .noKeys => "requiredTags check has no keys"
  | .noExpected type => type ++ " check has no value"
  | .unknownNormalizer name => "unknown normalizer " ++ Quoted.text name
  | .badPattern text fault => "invalid regex " ++ Quoted.text text ++ ": " ++ fault.message text
  | .notEmbeddable text whole fault =>
    "regex " ++ Quoted.text text ++ " cannot be embedded: " ++ fault.message whole
  | .target cause => cause.message

/-- Why there is no check: the entry is unusable, or reading its pattern went wrong in another way than
by finding it malformed. -/
inductive BuildError where
  | unusable (cause : Unusable)
  | pattern (text : String) (fault : Regex.Fault)
deriving DecidableEq, Repr

/-- Is the fault one of the expression itself? -/
def Regex.Fault.isMalformed : Regex.Fault → Bool
  | .malformed _ _ | .unusable _ => true
  | .countTooLarge | .countTooLong _ | .twoCharacterSets => false

/-- Accepts a pattern that can be compiled; `cause` says what a malformed one is. -/
def acceptPattern (text : String) (cause : Regex.Fault → Unusable) : Except BuildError Unit :=
  match Regex.Pattern.compile text false with
  | .ok _ => .ok ()
  | .error fault => .error (if fault.isMalformed then .unusable (cause fault) else .pattern text fault)

/-- Accepts a pattern as it stands. -/
def validPattern (text : String) : Except BuildError Unit := acceptPattern text (.badPattern text)

/-- Accepts a pattern that has been put together from the given one. -/
def composedPattern (given whole : String) : Except BuildError Unit :=
  acceptPattern whole (.notEmbeddable given whole)

/-- What a policy can demand of a kind of action. -/
structure Intent where
  field : String
  suffix : String
  description : String
  /-- The check that a value of the field asks for. -/
  check : Value → Except BuildError (Option Check)
  effect : Effect := .deny

namespace Intent

/-- The texts of a list value. -/
def termsOf (v : Value) : List String := v.texts?.getD []

/-- An expression that matches any of the terms literally. -/
def alternation (terms : List String) : String := String.intercalate "|" (terms.map Regex.escape)

/-- The pattern of names in which no term stands as a word of its own. -/
def withoutWords (terms : List String) : String :=
  "^(?!.*(?<!\\w)(?:" ++ alternation terms ++ ")(?!\\w)).+$"

/-- The pattern of names in which no term occurs. -/
def withoutTerms (terms : List String) : String := "^(?!.*(?:" ++ alternation terms ++ ")).+$"

/-- The pattern of names in which a given pattern is not found. -/
def withoutPattern (pattern : String) : String :=
  "^(?!.*" ++ PatternGroup.group pattern ++ ").+$"

/-- A check of the name against a pattern, irrespective of case. -/
def nameCheck (pattern message : String) : Check :=
  { path := "name", test := .matching (some pattern) true, message := some message }

/-- Names in which no term stands as a word of its own. -/
def denyNames (v : Value) : Except BuildError (Option Check) :=
  match termsOf v with
  | [] => .ok none
  | terms =>
    .ok (nameCheck (withoutWords terms) ("name cannot contain: " ++ String.intercalate ", " terms))

/-- Names in which no term occurs. -/
def denyContains (v : Value) : Except BuildError (Option Check) :=
  match termsOf v with
  | [] => .ok none
  | terms =>
    .ok (nameCheck (withoutTerms terms)
      ("name contains a banned term (" ++ String.intercalate ", " terms ++ ")"))

/-- The text of a value, unless it is empty. -/
def patternOf (v : Value) : Option String := given v.str?

/-- Names in which a pattern is not found. -/
def denyRegex (v : Value) : Except BuildError (Option Check) :=
  match patternOf v with
  | none => .ok none
  | some pattern => do
    validPattern pattern
    composedPattern pattern (withoutPattern pattern)
    return some (nameCheck (withoutPattern pattern) "name matches a denied pattern")

/-- Names in which a pattern is found. -/
def nameRegex (v : Value) : Except BuildError (Option Check) :=
  match patternOf v with
  | none => .ok none
  | some pattern => do
    validPattern pattern
    return some { path := "name", test := .matching (some pattern) false }

/-- Values in which at least one of several patterns is found. -/
def anyRegex (path message : String) (fallbacks : List String) (v : Value) :
    Except BuildError (Option Check) :=
  match termsOf v with
  | [] => .ok none
  | patterns => do
    patterns.forM validPattern
    let joined := String.intercalate "|" (patterns.map PatternGroup.group)
    composedPattern (String.intercalate "|" patterns) joined
    return some { path, test := .matching (some joined) true, message := some message, fallbacks }

/-- One of the listed values. -/
def allowed (path : String) (fallbacks : List String) (ignoreCase : Bool)
    (normalizer : Option String) (v : Value) : Except BuildError (Option Check) :=
  match v.list?.getD [] with
  | [] => .ok none
  | values => .ok (some { path, test := .among values ignoreCase normalizer, fallbacks })

/-- One of the listed values, as it stands. -/
def allowedExactly (path : String) : Value → Except BuildError (Option Check) :=
  allowed path [] false none

/-- A TLS version that is not below the given one. -/
def leastTls (path : String) (v : Value) : Except BuildError (Option Check) :=
  match patternOf v with
  | none => .ok none
  | some least =>
    let versions := Schema.tlsVersions.dropWhile (· ≠ least)
    .ok (some { path, test := .among (versions.map .str) false none,
                message := some ("minimum TLS version must be at least " ++ least) })

/-- All of the listed keys. -/
def keys (path : String) (v : Value) : Except BuildError (Option Check) :=
  match termsOf v with
  | [] => .ok none
  | names => .ok (some { path, test := .withKeys names })

/-- A test that a raised flag asks for. -/
def whenSet (test : Test) (path : String) (message : Option String) (fallbacks : List String)
    (v : Value) : Except BuildError (Option Check) :=
  .ok (if v.isTrue then some { path, test, message, fallbacks } else none)

/-- The given value. -/
def exactly (path : String) (v : Value) : Except BuildError (Option Check) :=
  .ok (some { path, test := .equalTo v })

/-- What a policy can demand of names. -/
def naming : List Intent :=
  [⟨"deny_names", "denyNames", "Disallow specific names", denyNames, .deny⟩,
   ⟨"deny_contains", "denyContains", "Disallow banned name substrings", denyContains, .deny⟩,
   ⟨"deny_regex", "denyRegex", "Disallow names matching a pattern", denyRegex, .deny⟩,
   ⟨"name_regex", "nameRegex", "Name must match pattern", nameRegex, .deny⟩,
   ⟨"name_no_spaces", "nameNoSpaces", "Name must not contain spaces",
      whenSet .withoutBlanks "name" none [], .deny⟩]

/-- Where things may be created. -/
def regions : Intent :=
  ⟨"allowed_regions", "allowedRegions", "Allowed locations", allowed "location" [] true none, .deny⟩

/-- Which tags things must have. -/
def tags : Intent := ⟨"require_tags", "requiredTags", "Required tags", keys "tags", .deny⟩

/-- Encrypted traffic only. -/
def httpsOnly : Intent :=
  ⟨"require_https_only", "httpsOnly", "HTTPS-only traffic required",
    whenSet .isTrue "httpsOnly" (some "https-only must be enabled") [], .deny⟩

/-- The oldest TLS version. -/
def minTls : Intent :=
  ⟨"min_tls_version", "minTls", "Minimum TLS version", leastTls "minTlsVersion", .deny⟩

/-- The intents of a kind of action of a provider, in the order of their rules. -/
def table : List ((String × String) × List Intent) :=
  [(("azure", "create_resource_group"), naming ++ [regions, tags]),
   (("azure", "create_storage_account"), naming ++
     [⟨"sku_allowlist", "skuAllow", "Storage SKU allowlist", allowedExactly "sku", .deny⟩,
      ⟨"kind_allowlist", "kindAllow", "Storage kind allowlist", allowedExactly "kind", .deny⟩,
      httpsOnly, minTls,
      ⟨"public_network_access", "publicNetworkAccess", "Public network access setting",
        exactly "publicNetworkAccess", .deny⟩,
      tags]),
   (("azure", "create_key_vault"), naming ++
     [⟨"sku_allowlist", "skuAllow", "Key Vault SKU allowlist",
        allowed "sku" ["properties.sku.name"] true none, .deny⟩,
      ⟨"require_rbac", "rbac", "RBAC authorization required",
        whenSet .isTrue "enableRbacAuthorization" (some "RBAC authorization must be enabled")
          ["properties.enableRbacAuthorization"], .deny⟩,
      ⟨"require_public_network_disabled", "publicNetworkDisabled",
        "Public network access must be disabled",
        whenSet (.equalTo (.str "Disabled")) "publicNetworkAccess"
          (some "Public network access must be disabled") ["properties.publicNetworkAccess"], .deny⟩,
      ⟨"require_purge_protection", "purgeProtection", "Purge protection required",
        whenSet .isTrue "enablePurgeProtection" (some "purge protection must be enabled") [], .deny⟩,
      ⟨"require_soft_delete", "softDelete", "Soft delete required",
        whenSet .isTrue "enableSoftDelete" (some "soft delete must be enabled") [], .deny⟩]),
   (("azure", "create_log_analytics_workspace"),
     [regions,
      ⟨"retention_days_allowlist", "retentionAllow", "Retention days allowlist",
        allowedExactly "retentionInDays", .deny⟩,
      tags]),
   (("azure", "create_virtual_network"), naming ++
     [regions, tags,
      ⟨"require_ddos_plan", "ddosPlan", "DDoS protection plan recommended",
        whenSet .present "ddosProtectionPlan" (some "Consider attaching a DDoS protection plan") [],
        .warn⟩]),
   (("azure", "create_subnet"), naming ++
     [⟨"require_nsg", "nsg", "Subnet must have an NSG",
        whenSet .present "networkSecurityGroup" (some "subnet must be associated with an NSG")
          ["nsgId"], .deny⟩,
      ⟨"require_private_endpoint_policies_disabled", "peNetworkPolicies",
        "Private endpoint network policies should be disabled",
        whenSet (.equalTo (.str "Disabled")) "privateEndpointNetworkPolicies"
          (some "disable private endpoint network policies for PE subnets") [], .warn⟩]),
   (("azure", "create_private_endpoint"),
     [⟨"target_regexes", "targetAllow", "Permitted private endpoint targets",
        anyRegex "targetResourceId" "target resource type not permitted by policy"
          ["privateLinkServiceId"], .deny⟩,
      ⟨"require_dns_zone_link", "dnsZoneLink", "Private DNS zone link recommended",
        whenSet .present "privateDnsZoneGroup"
          (some "link to Private DNS Zone for the target resource type") ["dnsZoneGroup"], .warn⟩]),
   (("azure", "create_app_service_plan"),
     [⟨"sku_allowlist", "skuAllow", "App Service Plan SKU allowlist",
        allowed "skuName" ["sku"] false (some "planSkuFamily"), .deny⟩]),
   (("azure", "create_web_app"), naming ++
     [⟨"runtime_allowlist", "runtimeAllow", "Web App runtime allowlist",
        allowed "runtimeStack" ["runtime", "linuxFxVersion", "siteConfig.linuxFxVersion"] true none,
        .deny⟩,
      httpsOnly, minTls]),
   (("azure", "create_public_ip"),
     [⟨"sku_allowlist", "skuAllow", "Public IP SKU allowlist", allowedExactly "sku", .deny⟩,
      ⟨"allocation_allowlist", "allocationAllow", "Public IP allocation allowlist",
        allowedExactly "publicIPAllocationMethod", .deny⟩,
      ⟨"version_allowlist", "versionAllow", "Public IP version allowlist",
        allowedExactly "publicIPAddressVersion", .deny⟩]),
   (("github", "create_repository"), naming ++
     [⟨"visibility_allowlist", "visibilityAllow", "Repository visibility allowlist",
        allowedExactly "visibility", .deny⟩,
      ⟨"require_description", "description", "Repository description required",
        whenSet .present "description" (some "repository description is required") [], .deny⟩])]

/-- The intents of a section. -/
def ofSection (s : Section) : List Intent :=
  ((table.find? (·.1 == (s.provider, s.kind))).map (·.2)).getD []

end Intent
end PolicyGate
