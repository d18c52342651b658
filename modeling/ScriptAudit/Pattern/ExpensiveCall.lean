namespace ScriptAudit

def expensiveCalls : List (String × String) := [
  ("GetComponent", "Cache component references in Awake/Start instead of calling every frame"),
  ("GetComponentInChildren", "Cache component references in Awake/Start"),
  ("GetComponentInParent", "Cache component references in Awake/Start"),
  ("GetComponents", "Cache component array in Awake/Start"),
  ("FindObjectOfType", "Use object references or singletons instead - extremely expensive"),
  ("FindObjectsOfType", "Use object references or caching - extremely expensive"),
  ("FindGameObjectWithTag", "Cache references in Awake/Start"),
  ("FindGameObjectsWithTag", "Cache references or use object pooling"),
  ("Find", "Use direct references or cached lookups instead of Find()"),
  ("SendMessage", "Use direct method calls or events instead - uses reflection"),
  ("BroadcastMessage", "Use direct method calls or events instead - uses reflection"),
  ("SendMessageUpwards", "Use direct method calls or events instead - uses reflection")
]

def expensiveCallSuggestion (callee : String) : Option String := expensiveCalls.lookup callee

end ScriptAudit
