namespace LayerMessaging.Program

def usage : String :=
  "Deploy the messaging contracts (reads ETH_RPC_URL and ACCOUNT_PRIVATE_KEY):\n" ++
  "    messaging-bridge deploy-messaging-contracts\n" ++
  "\n" ++
  "Send a message to the L2 contract (L1_CONTRACT_ADDRESS, L2_CONTRACT_ADDRESS):\n" ++
  "    messaging-bridge send-msg --selector-str func_name --payload \"[1,2]\"\n" ++
  "\n" ++
  "Consume a message sent from L2:\n" ++
  "    messaging-bridge consume-msg --payload \"[1,2]\"\n" ++
  "\n" ++
  "Preview the transaction without sending it:\n" ++
  "    messaging-bridge send-msg --selector-str func_name --payload \"[1,2]\" --dry-run\n" ++
  "\n" ++
  "Print the selector for a function name:\n" ++
  "    messaging-bridge selector func_name\n" ++
  "\n" ++
  "Payload elements may be decimal or 0x-prefixed hex, separated by commas or spaces.\n" ++
  "Keys are read from .env unless --env-file says otherwise."

end LayerMessaging.Program
