import ContractAtlas.Artifacts.Messenger

namespace ContractAtlas

def artifacts : List Artifact := [Artifacts.Messenger.artifact]

def Registry.standard : Except RegistrationFault Registry := Registry.ofArtifacts artifacts

end ContractAtlas
