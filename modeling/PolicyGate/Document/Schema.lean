import PolicyGate.Document.Shape

/-!
# The shape of rule documents

A rule document has provider sections with one policy per kind of action, raw policies, and an advisory
section with profiles. Every list of controls names the controls that a rule implements.
-/

namespace PolicyGate.Schema

/-- Fields given one by one. -/
def fields (fs : List (String × Shape)) : Fields :=
  fs.foldr (fun (name, shape) others => .field name false shape others) .none

/-- A field that must be there. -/
def required (name : String) (shape : Shape) (others : Fields) : Fields := .field name true shape others

/-- A list of texts, or null. -/
def texts? : Shape := .nullable (.list .text)

/-- A text, or null. -/
def text? : Shape := .nullable .text

/-- A flag, or null. -/
def flag? : Shape := .nullable .flag

/-- A mapping from texts to anything. -/
def mapping : Shape := .dictionary .anything

/-- One check. -/
def checkSpec : Shape :=
  .record "CheckSpec" <| required "type" .text <| fields
    [("path", .text), ("message", text?), ("pattern", text?), ("ignore_case", .flag),
     ("values", .nullable (.list .anything)), ("keys", texts?), ("value", .anything),
     ("fallback_paths", .list .text), ("normalize", text?)]

/-- A suggestion with a title and a fix. -/
def suggestSpec : Shape :=
  .record "SuggestSpec" <| .append (fields [("title", text?)]) <| required "text" .text <|
    fields [("fix", .nullable mapping)]

/-- The actions a policy is for. -/
def targetSpec : Shape := .record "TargetSpec" (fields [("tool", text?), ("prefix", text?)])

/-- A policy written as checks. -/
def rawPolicy : Shape :=
  .record "RawPolicy" <| required "id" .text <| .append (fields [("description", .text)]) <|
    required "target" targetSpec <| fields
      [("effect", .word ["deny", "warn"]), ("checks", .list checkSpec),
       ("suggest", .nullable (.textOr suggestSpec)), ("controls", .list .text)]

/-- The TLS versions, oldest first. -/
def tlsVersions : List String := ["1.0", "1.1", "1.2", "1.3"]

/-- The fields of a policy for actions that name what they create. -/
def naming : List (String × Shape) :=
  [("deny_names", texts?), ("deny_contains", texts?), ("deny_regex", text?), ("name_regex", text?),
   ("name_no_spaces", flag?), ("controls", .list .text)]

/-- The controls of a policy for actions that name nothing. -/
def controls : List (String × Shape) := [("controls", .list .text)]

/-- The kinds of action of the first provider, with the policy for each. -/
def azureActions : List (String × Shape) :=
  [("create_resource_group", .record "ResourceGroupPolicy" <| fields <| naming ++
      [("allowed_regions", texts?), ("require_tags", texts?), ("suggest_name", text?),
       ("suggest_region", text?), ("suggest_tags", .nullable (.dictionary .text))]),
   ("create_storage_account", .record "StorageAccountPolicy" <| fields <| naming ++
      [("sku_allowlist", texts?), ("kind_allowlist", texts?), ("require_https_only", flag?),
       ("min_tls_version", .nullable (.version tlsVersions)),
       ("public_network_access", .nullable (.word ["Enabled", "Disabled"])),
       ("require_tags", texts?)]),
   ("create_key_vault", .record "KeyVaultPolicy" <| fields <| naming ++
      [("sku_allowlist", texts?), ("require_rbac", flag?),
       ("require_public_network_disabled", flag?), ("require_purge_protection", flag?),
       ("require_soft_delete", flag?)]),
   ("create_log_analytics_workspace", .record "LogAnalyticsPolicy" <| fields <|
      [("allowed_regions", texts?), ("retention_days_allowlist", .nullable (.list .whole)),
       ("require_tags", texts?)] ++ controls),
   ("create_virtual_network", .record "VirtualNetworkPolicy" <| fields <| naming ++
      [("allowed_regions", texts?), ("require_tags", texts?), ("require_ddos_plan", flag?)]),
   ("create_subnet", .record "SubnetPolicy" <| fields <| naming ++
      [("require_nsg", flag?), ("require_private_endpoint_policies_disabled", flag?)]),
   ("create_private_endpoint", .record "PrivateEndpointPolicy" <| fields <|
      [("target_regexes", texts?), ("require_dns_zone_link", flag?)] ++ controls),
   ("create_app_service_plan", .record "AppServicePlanPolicy" <| fields <|
      [("sku_allowlist", texts?)] ++ controls),
   ("create_web_app", .record "WebAppPolicy" <| fields <| naming ++
      [("runtime_allowlist", texts?), ("require_https_only", flag?),
       ("min_tls_version", .nullable (.version tlsVersions))]),
   ("create_public_ip", .record "PublicIpPolicy" <| fields <|
      [("sku_allowlist", texts?), ("allocation_allowlist", texts?),
       ("version_allowlist", texts?)] ++ controls)]

/-- The kinds of action of the second provider, with the policy for each. -/
def githubActions : List (String × Shape) :=
  [("create_repository", .record "RepositoryPolicy" <| fields <| naming ++
      [("visibility_allowlist", texts?), ("require_description", flag?)])]

/-- A section in which each policy may be missing. -/
def section_ (name : String) (actions : List (String × Shape)) : Shape :=
  .record name (fields (actions.map fun (action, shape) => (action, .nullable shape)))

/-- An advisory rule. -/
def advisoryRule : Shape :=
  .record "AdvisoryRule" <| fields
    [("title", text?), ("severity", text?), ("controls", .list .text), ("suggest", text?),
     ("fix", .nullable mapping), ("checks", .list checkSpec)]

/-- The advisory rules of a domain. -/
def advisoryDomain : Shape :=
  .record "AdvisoryDomain" <| fields
    [("target", .nullable targetSpec), ("rules", .dictionary advisoryRule)]

/-- The advisory section. -/
def advisory : Shape :=
  .record "AtoSection" <| fields
    [("default_profile", text?), ("profiles", .dictionary (.dictionary advisoryDomain)),
     ("policies", .list rawPolicy)]

/-- The providers, with their kinds of action in order. -/
def providers : List (String × String × List (String × Shape)) :=
  [("azure", "AzurePolicySet", azureActions), ("github", "GithubPolicySet", githubActions)]

/-- A whole document. -/
def document : Shape :=
  .record "PolicyDocument" <| fields <|
    [("aliases", .dictionary .text)] ++
      (providers.map fun (name, record, actions) => (name, .nullable (section_ record actions))) ++
      [("policies", .list rawPolicy), ("ato", .nullable advisory)]

end PolicyGate.Schema
