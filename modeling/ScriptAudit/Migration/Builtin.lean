import ScriptAudit.Migration.Registry

namespace ScriptAudit

def builtinMigrations : List ApiMigration := [
  ⟨"UnityEngine.Input.GetAxis",
    "UnityEngine.InputSystem.InputAction",
    "2019.4", none, "Input",
    "Legacy Input Manager is deprecated. Use the new Input System package."⟩,
  ⟨"UnityEngine.Input.GetButton",
    "UnityEngine.InputSystem.InputAction",
    "2019.4", none, "Input",
    "Legacy Input Manager is deprecated. Use the new Input System package."⟩,
  ⟨"UnityEngine.Input.GetKey",
    "UnityEngine.InputSystem.Keyboard.current",
    "2019.4", none, "Input",
    "Legacy Input Manager is deprecated. Use the new Input System package."⟩,
  ⟨"UnityEngine.Input.GetMouseButton",
    "UnityEngine.InputSystem.Mouse.current",
    "2019.4", none, "Input",
    "Legacy Input Manager is deprecated. Use the new Input System package."⟩,
  ⟨"UnityEngine.Input.mousePosition",
    "UnityEngine.InputSystem.Mouse.current.position",
    "2019.4", none, "Input",
    "Legacy Input Manager is deprecated. Use the new Input System package."⟩,
  ⟨"Physics.IgnoreCollision (layer overloads)",
    "Physics.IgnoreLayerCollision",
    "2022.3", none, "Physics",
    "Use layer-based collision matrix settings instead"⟩,
  ⟨"Physics.autoSyncTransforms",
    "Physics.simulationMode",
    "2022.3", none, "Physics",
    "Use Physics.simulationMode for controlling physics simulation"⟩,
  ⟨"Camera.SetTargetBuffers",
    "RenderTexture.SetRenderTarget",
    "2022.3", none, "Rendering",
    "Use RenderTexture API or Scriptable Render Pipeline"⟩,
  ⟨"RenderTexture.GetTemporary (with int parameters)",
    "RenderTexture.GetTemporary (with RenderTextureDescriptor)",
    "2022.3", none, "Rendering",
    "Use RenderTextureDescriptor overload for clarity"⟩,
  ⟨"Graphics.Blit (obsolete overloads)",
    "CommandBuffer.Blit",
    "2022.3", none, "Rendering",
    "Use CommandBuffer API for better control and batching"⟩,
  ⟨"OnRenderImage",
    "ScriptableRenderPass",
    "2022.3", none, "Rendering",
    "OnRenderImage not supported in URP/HDRP. Use custom render passes."⟩,
  ⟨"UnityEngine.UI (legacy)",
    "UnityEngine.UIElements",
    "2022.3", none, "UI",
    "UI Toolkit (UIElements) is the recommended UI system for editor and runtime"⟩,
  ⟨"UnityEngine.Networking.NetworkTransport",
    "Unity.Netcode.NetworkManager",
    "2022.3", some "6000.0", "Networking",
    "UNet is removed in Unity 6. Use Netcode for GameObjects or third-party solution"⟩,
  ⟨"UnityEngine.Networking.NetworkManager",
    "Unity.Netcode.NetworkManager",
    "2022.3", some "6000.0", "Networking",
    "UNet is removed in Unity 6. Use Netcode for GameObjects"⟩,
  ⟨"UnityEngine.Networking.NetworkBehaviour",
    "Unity.Netcode.NetworkBehaviour",
    "2022.3", some "6000.0", "Networking",
    "UNet is removed in Unity 6. Use Netcode for GameObjects"⟩,
  ⟨"UnityEngine.WWW",
    "UnityEngine.Networking.UnityWebRequest",
    "2018.4", some "2022.3", "Networking",
    "WWW class is removed. Use UnityWebRequest"⟩,
  ⟨"UnityEngine.Rendering.SRPBatcher (manual calls)",
    "Automatic batching",
    "2022.3", none, "Rendering",
    "SRP Batcher is automatic in URP/HDRP; manual calls are deprecated"⟩,
  ⟨"EditorUtility.DisplayDialog (some overloads)",
    "EditorUtility.DisplayDialog (updated signature)",
    "6000.0", none, "Editor",
    "Some dialog overloads updated in Unity 6"⟩,
  ⟨"AssetDatabase.Refresh (synchronous)",
    "AssetDatabase.RefreshSettings",
    "6000.0", none, "Editor",
    "Consider async refresh patterns in Unity 6"⟩,
  ⟨"UnityEngine.XR.WSA",
    "UnityEngine.XR.OpenXR",
    "2022.3", some "6000.0", "XR",
    "Windows Mixed Reality API deprecated. Use OpenXR"⟩,
  ⟨"UnityEngine.VR.VRSettings",
    "UnityEngine.XR.XRSettings",
    "2019.4", some "2022.3", "XR",
    "Legacy VR namespace removed. Use XR namespace"⟩,
  ⟨"UnityEngine.XR.InputTracking",
    "UnityEngine.XR.InputDevices",
    "2019.4", none, "XR",
    "InputTracking deprecated. Use InputDevices API"⟩,
  ⟨"StartCoroutine (string method name)",
    "StartCoroutine (IEnumerator)",
    "2019.4", none, "Coroutines",
    "String-based coroutine start is slower due to reflection. Use IEnumerator overload"⟩,
  ⟨"AudioSource.PlayScheduled",
    "AudioSource.PlayScheduled (with DSP time)",
    "2022.3", none, "Audio",
    "Ensure using DSP time for accurate audio scheduling"⟩,
  ⟨"Animation component (legacy)",
    "Animator component",
    "2017.4", none, "Animation",
    "Legacy Animation component is deprecated. Use Animator with AnimatorController"⟩,
  ⟨"ParticleSystem.Emit (obsolete overloads)",
    "ParticleSystem.Emit (EmitParams)",
    "2022.3", none, "Particles",
    "Use EmitParams struct for more control over emitted particles"⟩,
  ⟨"Application.LoadLevel",
    "SceneManager.LoadScene",
    "2017.4", some "2019.4", "SceneManagement",
    "Application.LoadLevel removed. Use SceneManager.LoadScene"⟩,
  ⟨"Application.LoadLevelAsync",
    "SceneManager.LoadSceneAsync",
    "2017.4", some "2019.4", "SceneManagement",
    "Application.LoadLevelAsync removed. Use SceneManager.LoadSceneAsync"⟩,
  ⟨"PlayerPrefs (for complex data)",
    "JsonUtility + File IO",
    "2019.4", none, "Storage",
    "PlayerPrefs is not suitable for complex data. Use serialization to files."⟩,
  ⟨"GUI.* and GUILayout.*",
    "UnityEngine.UIElements",
    "2022.3", none, "UI",
    "IMGUI is legacy. Use UI Toolkit for editor UI and runtime UI."⟩
]

def MigrationRegistry.builtin : MigrationRegistry := ⟨builtinMigrations⟩

end ScriptAudit
