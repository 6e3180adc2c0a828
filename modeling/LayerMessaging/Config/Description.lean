import LayerMessaging.Config.Basic

namespace LayerMessaging

/-- How a host describes itself. An address of eight pieces that stands for one of four bytes shows
these. -/
def Url.Host.shown : Url.Host → String
  | .name text => "Domain(" ++ Text.quote text ++ ")"
  | .ipv4 address => "Ipv4(" ++ String.ofList (ipv4Text address) ++ ")"
  | .ipv6 [0, 0, 0, 0, 0, 65535, high, low] =>
    "Ipv6(::ffff:" ++ String.ofList (ipv4Text (65536 * high + low)) ++ ")"
  | .ipv6 pieces => "Ipv6(" ++ String.ofList (ipv6Text pieces) ++ ")"

def Url.shown (url : Url) : String :=
  let isOpaque : Bool := url.authority.isNone && url.path.toList.head? ≠ some '/'
  "Url \x7b scheme: " ++ Text.quote url.scheme
    ++ ", cannot_be_a_base: " ++ toString isOpaque
    ++ ", username: " ++ Text.quote (url.authority.elim "" (·.username))
    ++ ", password: " ++ Text.describeOption ((url.authority.bind (·.password)).map Text.quote)
    ++ ", host: " ++ Text.describeOption ((url.authority.bind (·.host)).map Host.shown)
    ++ ", port: " ++ Text.describeOption ((url.authority.bind (·.port)).map toString)
    ++ ", path: " ++ Text.quote url.path
    ++ ", query: " ++ Text.describeOption (url.query.map Text.quote)
    ++ ", fragment: " ++ Text.describeOption (url.fragment.map Text.quote) ++ " \x7d"

def Endpoint.shown (endpoint : Endpoint) : String :=
  "Endpoint \x7b rpc_url: " ++ endpoint.rpcUrl.shown ++ ", failover_urls: "
    ++ Text.describeList (endpoint.failoverUrls.map Url.shown)
    ++ ", private_key: " ++ endpoint.privateKey.shown ++ ", chain_id: "
    ++ Text.describeOption (endpoint.chainId.map toString) ++ " \x7d"

def Target.shown (target : Target) : String :=
  "MessagingTarget \x7b l1_contract: " ++ target.l1Contract.hex ++ ", l2_contract: "
    ++ target.l2Contract.decimal ++ ", message_value: " ++ target.messageValue.decimal ++ " \x7d"

def Config.shown (config : Config) : String :=
  "BridgeConfig \x7b endpoint: " ++ Text.describeOption (config.endpoint.map Endpoint.shown)
    ++ ", target: " ++ Text.describeOption (config.target.map Target.shown) ++ " \x7d"

end LayerMessaging
