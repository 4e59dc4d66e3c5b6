import ContractAtlas.Layout.Printer
import ContractAtlas.Registry

namespace ContractAtlas.Artifacts.Messenger

def entry (astId : UInt64) (label : String) (offset : UInt64) (slot : Word) (type : String) :
    Variable :=
  ⟨astId, "contracts/L2/L2CrossDomainMessenger.sol:L2CrossDomainMessenger", label, offset, slot, type⟩

def plain (label : String) (width : UInt64) : Descriptor :=
  ⟨.inplace, label, width, none, none, none, none⟩

def array (label : String) (width : UInt64) (base : String) : Descriptor :=
  ⟨.inplace, label, width, some base, none, none, none⟩

def mapping (label key value : String) : Descriptor :=
  ⟨.mapping, label, 32, none, some key, some value, none⟩

def layout : Layout where
  vars := [
    entry 1000 "spacer_0_0_20" 0 0 "t_address",
    entry 1001 "_initialized" 20 0 "t_uint8",
    entry 1002 "_initializing" 21 0 "t_bool",
    entry 1003 "spacer_1_0_1600" 0 1 "t_array(t_uint256)50_storage",
    entry 1004 "spacer_51_0_20" 0 51 "t_address",
    entry 1005 "spacer_52_0_1568" 0 52 "t_array(t_uint256)49_storage",
    entry 1006 "spacer_101_0_1" 0 101 "t_bool",
    entry 1007 "spacer_102_0_1568" 0 102 "t_array(t_uint256)49_storage",
    entry 1008 "spacer_151_0_32" 0 151 "t_uint256",
    entry 1009 "spacer_152_0_1568" 0 152 "t_array(t_uint256)49_storage",
    entry 1010 "spacer_201_0_32" 0 201 "t_mapping(t_bytes32,t_bool)",
    entry 1011 "spacer_202_0_32" 0 202 "t_mapping(t_bytes32,t_bool)",
    entry 1012 "successfulMessages" 0 203 "t_mapping(t_bytes32,t_bool)",
    entry 1013 "xDomainMsgSender" 0 204 "t_address",
    entry 1014 "msgNonce" 0 205 "t_uint240",
    entry 1015 "failedMessages" 0 206 "t_mapping(t_bytes32,t_bool)",
    entry 1016 "__gap" 0 207 "t_array(t_uint256)42_storage"]
  types := Table.ofList [
    ("t_address", plain "address" 20),
    ("t_array(t_uint256)42_storage", array "uint256[42]" 1344 "t_uint256"),
    ("t_array(t_uint256)49_storage", array "uint256[49]" 1568 "t_uint256"),
    ("t_array(t_uint256)50_storage", array "uint256[50]" 1600 "t_uint256"),
    ("t_bool", plain "bool" 1),
    ("t_bytes32", plain "bytes32" 32),
    ("t_mapping(t_bytes32,t_bool)", mapping "mapping(bytes32 => bool)" "t_bytes32" "t_bool"),
    ("t_uint240", plain "uint240" 30),
    ("t_uint256", plain "uint256" 32),
    ("t_uint8", plain "uint8" 1)]

def codeLines : List String := [
  "0x6080604052600436106101445760003560e01c80638129fc1c116100c0578063a711986911610074578063b2",
  "8ade2511610059578063b28ade251461036e578063d764ad0b1461038e578063ecc70428146103a157600080fd",
  "5b8063a71198691461030b578063b1b1b2091461033e57600080fd5b80638cbeeef2116100a55780638cbeeef2",
  "146101e35780639fce812c14610297578063a4e7f8bd146102cb57600080fd5b80638129fc1c1461026b578063",
  "83a740741461028057600080fd5b80633f827a5a1161011757806354fd4d50116100fc57806354fd4d50146101",
  "f95780635644cfdf1461021b5780636e296e451461023157600080fd5b80633f827a5a146101bb5780634c1d6a",
  "69146101e357600080fd5b8063028f85f7146101495780630c5684981461017c5780632828d7e8146101915780",
  "633dbb202b146101a6575b600080fd5b34801561015557600080fd5b5061015e601081565b60405167ffffffff",
  "ffffffff90911681526020015b60405180910390f35b34801561018857600080fd5b5061015e603f81565b3480",
  "1561019d57600080fd5b5061015e604081565b6101b96101b4366004611886565b610406565b005b3480156101",
  "c757600080fd5b506101d0600181565b60405161ffff9091168152602001610173565b3480156101ef57600080",
  "fd5b5061015e619c4081565b34801561020557600080fd5b5061020e61066a565b604051610173919061196556",
  "5b34801561022757600080fd5b5061015e61138881565b34801561023d57600080fd5b5061024661070d565b60",
  "405173ffffffffffffffffffffffffffffffffffffffff9091168152602001610173565b348015610277576000",
  "80fd5b506101b96107f9565b34801561028c57600080fd5b5061015e62030d4081565b3480156102a357600080",
  "fd5b506102467f000000000000000000000000000000000000000000000000000000000000000081565b348015",
  "6102d757600080fd5b506102fb6102e636600461197f565b60ce6020526000908152604090205460ff1681565b",
  "6040519015158152602001610173565b34801561031757600080fd5b507f000000000000000000000000000000",
  "0000000000000000000000000000000000610246565b34801561034a57600080fd5b506102fb61035936600461",
  "197f565b60cb6020526000908152604090205460ff1681565b34801561037a57600080fd5b5061015e61038936",
  "6004611998565b6109f6565b6101b961039c3660046119ec565b610a64565b3480156103ad57600080fd5b5061",
  "03f860cd547dffffffffffffffffffffffffffffffffffffffffffffffffffffffffffff167e01000000000000",
  "0000000000000000000000000000000000000000000000001790565b604051908152602001610173565b61053f",
  "7f00000000000000000000000000000000000000000000000000000000000000006104358585856109f6565b34",
  "7fd764ad0b000000000000000000000000000000000000000000000000000000006104a160cd547dffffffffff",
  "ffffffffffffffffffffffffffffffffffffffffffffffffff167e010000000000000000000000000000000000",
  "000000000000000000000000001790565b338a34898c8c6040516024016104bd9796959493929190611ab7565b",
  "604080517fffffffffffffffffffffffffffffffffffffffffffffffffffffffffffffffe08184030181529190",
  "526020810180517bffffffffffffffffffffffffffffffffffffffffffffffffffffffff167fffffffff000000",
  "000000000000000000000000000000000000000000000000009093169290921790915261135d565b8373ffffff",
  "ffffffffffffffffffffffffffffffffff167fcb0f7ffd78f9aee47a248fae8db181db6eee833039123e026dcb",
  "ff529522e52a3385856105c460cd547dffffffffffffffffffffffffffffffffffffffffffffffffffffffffff",
  "ff167e010000000000000000000000000000000000000000000000000000000000001790565b866040516105d6",
  "959493929190611b16565b60405180910390a260405134815233907f8ebb2ec2465bdb2a06a66fc37a0963af8a",
  "2a6a1479d81d56fdb8cbb98096d5469060200160405180910390a2505060cd80547dffffffffffffffffffffff",
  "ffffffffffffffffffffffffffffffffffffff808216600101167fffff00000000000000000000000000000000",
  "00000000000000000000000000009091161790555050565b60606106957f000000000000000000000000000000",
  "00000000000000000000000000000000006113eb565b6106be7f00000000000000000000000000000000000000",
  "000000000000000000000000006113eb565b6106e77f0000000000000000000000000000000000000000000000",
  "0000000000000000006113eb565b6040516020016106f993929190611b64565b60405160208183030381529060",
  "4052905090565b60cc5460009073ffffffffffffffffffffffffffffffffffffffff167fffffffffffffffffff",
  "ffffffffffffffffffffffffffffffffffffffffff2153016107dc576040517f08c379a0000000000000000000",
  "00000000000000000000000000000000000000815260206004820152603560248201527f43726f7373446f6d61",
  "696e4d657373656e6765723a2078446f6d61696e4d657360448201527f7361676553656e646572206973206e6f",
  "7420736574000000000000000000000060648201526084015b60405180910390fd5b5060cc5473ffffffffffff",
  "ffffffffffffffffffffffffffff1690565b600054750100000000000000000000000000000000000000000090",
  "0460ff1615808015610844575060005460017401000000000000000000000000000000000000000090910460ff",
  "16105b806108765750303b15801561087657506000547401000000000000000000000000000000000000000090",
  "0460ff166001145b610902576040517f08c379a000000000000000000000000000000000000000000000000000",
  "000000815260206004820152602e60248201527f496e697469616c697a61626c653a20636f6e74726163742069",
  "7320616c72656160448201527f647920696e697469616c697a6564000000000000000000000000000000000000",
  "60648201526084016107d3565b600080547fffffffffffffffffffffff00ffffffffffffffffffffffffffffff",
  "ffffffffff1674010000000000000000000000000000000000000000179055801561098857600080547fffffff",
  "ffffffffffffff00ffffffffffffffffffffffffffffffffffffffffff16750100000000000000000000000000",
  "00000000000000001790555b610990611520565b80156109f357600080547fffffffffffffffffffff00ffffff",
  "ffffffffffffffffffffffffffffffffffff169055604051600181527f7f26b83ff96e1f2b6a682f133852f679",
  "8a09c465da95921460cefb38474024989060200160405180910390a15b50565b6000611388619c4080603f610a",
  "12604063ffffffff8816611c09565b610a1c9190611c68565b610a27601088611c09565b610a349062030d4061",
  "1c8f565b610a3e9190611c8f565b610a489190611c8f565b610a529190611c8f565b610a5c9190611c8f565b94",
  "9350505050565b60f087901c60028110610b1f576040517f08c379a00000000000000000000000000000000000",
  "0000000000000000000000815260206004820152604d60248201527f43726f7373446f6d61696e4d657373656e",
  "6765723a206f6e6c7920766572736960448201527f6f6e2030206f722031206d65737361676573206172652073",
  "7570706f7274656460648201527f20617420746869732074696d65000000000000000000000000000000000000",
  "00608482015260a4016107d3565b8061ffff16600003610c14576000610b70878986868080601f016020809104",
  "0260200160405190810160405280939291908181526020018383808284376000920191909152508f92506115f9",
  "915050565b600081815260cb602052604090205490915060ff1615610c12576040517f08c379a0000000000000",
  "00000000000000000000000000000000000000000000815260206004820152603760248201527f43726f737344",
  "6f6d61696e4d657373656e6765723a206c65676163792077697460448201527f6864726177616c20616c726561",
  "64792072656c6179656400000000000000000060648201526084016107d3565b505b6000610c5a898989898989",
  "898080601f01602080910402602001604051908101604052809392919081815260200183838082843760009201",
  "919091525061161892505050565b905073ffffffffffffffffffffffffffffffffffffffff7fffffffffffffff",
  "ffffffffffeeeeffffffffffffffffffffffffffffffffeeef330181167f000000000000000000000000000000",
  "000000000000000000000000000000000090911603610cf257853414610cce57610cce611cbb565b6000818152",
  "60ce602052604090205460ff1615610ced57610ced611cbb565b610e44565b3415610da6576040517f08c379a0",
  "00000000000000000000000000000000000000000000000000000000815260206004820152605060248201527f",
  "43726f7373446f6d61696e4d657373656e6765723a2076616c7565206d75737460448201527f206265207a6572",
  "6f20756e6c657373206d6573736167652069732066726f6d2060648201527f612073797374656d206164647265",
  "737300000000000000000000000000000000608482015260a4016107d3565b600081815260ce60205260409020",
  "5460ff16610e44576040517f08c379a00000000000000000000000000000000000000000000000000000000081",
  "5260206004820152603060248201527f43726f7373446f6d61696e4d657373656e6765723a206d657373616765",
  "20636160448201527f6e6e6f74206265207265706c617965640000000000000000000000000000000060648201",
  "526084016107d3565b610e4d8761163b565b15610f00576040517f08c379a00000000000000000000000000000",
  "0000000000000000000000000000815260206004820152604360248201527f43726f7373446f6d61696e4d6573",
  "73656e6765723a2063616e6e6f742073656e60448201527f64206d65737361676520746f20626c6f636b656420",
  "73797374656d206164647260648201527f65737300000000000000000000000000000000000000000000000000",
  "00000000608482015260a4016107d3565b600081815260cb602052604090205460ff1615610f9f576040517f08",
  "c379a0000000000000000000000000000000000000000000000000000000008152602060048201526036602482",
  "01527f43726f7373446f6d61696e4d657373656e6765723a206d65737361676520686160448201527f7320616c",
  "7265616479206265656e2072656c617965640000000000000000000060648201526084016107d3565b610fc085",
  "610fb1611388619c40611c8f565b67ffffffffffffffff16611690565b1580610fe6575060cc5473ffffffffff",
  "ffffffffffffffffffffffffffffff1661dead14155b156110ff57600081815260ce602052604080822080547f",
  "ffffffffffffffffffffffffffffffffffffffffffffffffffffffffffffff001660011790555182917f99d0e0",
  "48484baa1b1540b1367cb128acd7ab2946d1ed91ec10e3c85e4bf51b8f91a27fffffffffffffffffffffffffff",
  "ffffffffffffffffffffffffffffffffffffff32016110f8576040517f08c379a0000000000000000000000000",
  "00000000000000000000000000000000815260206004820152602d60248201527f43726f7373446f6d61696e4d",
  "657373656e6765723a206661696c656420746f2060448201527f72656c6179206d657373616765000000000000",
  "0000000000000000000000000060648201526084016107d3565b5050611338565b60cc80547fffffffffffffff",
  "ffffffffff00000000000000000000000000000000000000001673ffffffffffffffffffffffffffffffffffff",
  "ffff8a16179055600061119088619c405a6111539190611cea565b8988888080601f0160208091040260200160",
  "405190810160405280939291908181526020018383808284376000920191909152506116ae92505050565b60cc",
  "80547fffffffffffffffffffffffff00000000000000000000000000000000000000001661dead179055905080",
  "1561122757600082815260cb602052604080822080547fffffffffffffffffffffffffffffffffffffffffffff",
  "ffffffffffffffffff001660011790555183917f4641df4a962071e12719d8c8c8e5ac7fc4d97b927346a3d7a3",
  "35b1f7517e133c91a2611334565b600082815260ce602052604080822080547fffffffffffffffffffffffffff",
  "ffffffffffffffffffffffffffffffffffff001660011790555183917f99d0e048484baa1b1540b1367cb128ac",
  "d7ab2946d1ed91ec10e3c85e4bf51b8f91a27fffffffffffffffffffffffffffffffffffffffffffffffffffff",
  "ffffffffffff3201611334576040517f08c379a000000000000000000000000000000000000000000000000000",
  "000000815260206004820152602d60248201527f43726f7373446f6d61696e4d657373656e6765723a20666169",
  "6c656420746f2060448201527f72656c6179206d65737361676500000000000000000000000000000000000000",
  "60648201526084016107d3565b5050505b50505050505050565b73ffffffffffffffffffffffffffffffffffff",
  "ffff163b151590565b6040517fc2b3e5ac00000000000000000000000000000000000000000000000000000000",
  "81527342000000000000000000000000000000000000169063c2b3e5ac9084906113b390889088908790600401",
  "611d01565b6000604051808303818588803b1580156113cc57600080fd5b505af11580156113e0573d6000803e",
  "3d6000fd5b505050505050505050565b60608160000361142e57505060408051808201909152600181527f3000",
  "000000000000000000000000000000000000000000000000000000000000602082015290565b8160005b811561",
  "1458578061144281611d49565b91506114519050600a83611d81565b9150611432565b60008167ffffffffffff",
  "ffff81111561147357611473611d95565b6040519080825280601f01601f19166020018201604052801561149d",
  "576020820181803683370190505b5090505b8415610a5c576114b2600183611cea565b91506114bf600a86611d",
  "c4565b6114ca906030611dd8565b60f81b8183815181106114df576114df611df0565b60200101907effffffff",
  "ffffffffffffffffffffffffffffffffffffffffffffffffffffff1916908160001a905350611519600a86611d",
  "81565b94506114a1565b6000547501000000000000000000000000000000000000000000900460ff166115cb57",
  "6040517f08c379a000000000000000000000000000000000000000000000000000000000815260206004820152",
  "602b60248201527f496e697469616c697a61626c653a20636f6e7472616374206973206e6f7420696044820152",
  "7f6e697469616c697a696e6700000000000000000000000000000000000000000060648201526084016107d356",
  "5b60cc80547fffffffffffffffffffffffff00000000000000000000000000000000000000001661dead179055",
  "565b6000611607858585856116c8565b805190602001209050949350505050565b600061162887878787878761",
  "1761565b8051906020012090509695505050505050565b600073ffffffffffffffffffffffffffffffffffffff",
  "ff821630148061168a575073ffffffffffffffffffffffffffffffffffffffff82167342000000000000000000",
  "00000000000000000016145b92915050565b600080603f83619c4001026040850201603f5a0210159493505050",
  "50565b600080600080845160208601878a8af19695505050505050565b6060848484846040516024016116e194",
  "93929190611e1f565b604080517fffffffffffffffffffffffffffffffffffffffffffffffffffffffffffffff",
  "e08184030181529190526020810180517bffffffffffffffffffffffffffffffffffffffffffffffffffffffff",
  "167fcbd4ece9000000000000000000000000000000000000000000000000000000001790529050949350505050",
  "565b606086868686868660405160240161177e96959493929190611e69565b604080517fffffffffffffffffff",
  "ffffffffffffffffffffffffffffffffffffffffffffe08184030181529190526020810180517bffffffffffff",
  "ffffffffffffffffffffffffffffffffffffffffffff167fd764ad0b0000000000000000000000000000000000",
  "000000000000000000000017905290509695505050505050565b803573ffffffffffffffffffffffffffffffff",
  "ffffffff8116811461182457600080fd5b919050565b60008083601f84011261183b57600080fd5b50813567ff",
  "ffffffffffffff81111561185357600080fd5b60208301915083602082850101111561186b57600080fd5b9250",
  "929050565b803563ffffffff8116811461182457600080fd5b6000806000806060858703121561189c57600080",
  "fd5b6118a585611800565b9350602085013567ffffffffffffffff8111156118c157600080fd5b6118cd878288",
  "01611829565b90945092506118e0905060408601611872565b905092959194509250565b60005b838110156119",
  "065781810151838201526020016118ee565b83811115611915576000848401525b50505050565b600081518084",
  "526119338160208601602086016118eb565b601f017fffffffffffffffffffffffffffffffffffffffffffffff",
  "ffffffffffffffffe0169290920160200192915050565b602081526000611978602083018461191b565b939250",
  "5050565b60006020828403121561199157600080fd5b5035919050565b6000806000604084860312156119ad57",
  "600080fd5b833567ffffffffffffffff8111156119c457600080fd5b6119d086828701611829565b9094509250",
  "6119e3905060208501611872565b90509250925092565b600080600080600080600060c0888a031215611a0757",
  "600080fd5b87359650611a1760208901611800565b9550611a2560408901611800565b94506060880135935060",
  "80880135925060a088013567ffffffffffffffff811115611a4f57600080fd5b611a5b8a828b01611829565b98",
  "9b979a50959850939692959293505050565b8183528181602085013750600060208284010152600060207fffff",
  "ffffffffffffffffffffffffffffffffffffffffffffffffffffffffffe0601f84011684010190509291505056",
  "5b878152600073ffffffffffffffffffffffffffffffffffffffff808916602084015280881660408401525085",
  "606083015263ffffffff8516608083015260c060a0830152611b0960c083018486611a6e565b99985050505050",
  "50505050565b73ffffffffffffffffffffffffffffffffffffffff86168152608060208201526000611b466080",
  "83018688611a6e565b905083604083015263ffffffff831660608301529695505050505050565b60008451611b",
  "768184602089016118eb565b80830190507f2e0000000000000000000000000000000000000000000000000000",
  "00000000008082528551611bb2816001850160208a016118eb565b60019201918201528351611bcd8160028401",
  "602088016118eb565b0160020195945050505050565b7f4e487b71000000000000000000000000000000000000",
  "00000000000000000000600052601160045260246000fd5b600067ffffffffffffffff80831681851681830481",
  "118215151615611c3057611c30611bda565b02949350505050565b7f4e487b7100000000000000000000000000",
  "000000000000000000000000000000600052601260045260246000fd5b600067ffffffffffffffff8084168061",
  "1c8357611c83611c39565b92169190910492915050565b600067ffffffffffffffff8083168185168083038211",
  "15611cb257611cb2611bda565b01949350505050565b7f4e487b71000000000000000000000000000000000000",
  "00000000000000000000600052600160045260246000fd5b600082821015611cfc57611cfc611bda565b500390",
  "565b73ffffffffffffffffffffffffffffffffffffffff8416815267ffffffffffffffff831660208201526060",
  "60408201526000611d40606083018461191b565b95945050505050565b60007fffffffffffffffffffffffffff",
  "ffffffffffffffffffffffffffffffffffffff8203611d7a57611d7a611bda565b5060010190565b600082611d",
  "9057611d90611c39565b500490565b7f4e487b7100000000000000000000000000000000000000000000000000",
  "000000600052604160045260246000fd5b600082611dd357611dd3611c39565b500690565b6000821982111561",
  "1deb57611deb611bda565b500190565b7f4e487b71000000000000000000000000000000000000000000000000",
  "00000000600052603260045260246000fd5b600073ffffffffffffffffffffffffffffffffffffffff80871683",
  "5280861660208401525060806040830152611e58608083018561191b565b905082606083015295945050505050",
  "565b868152600073ffffffffffffffffffffffffffffffffffffffff8088166020840152808716604084015250",
  "84606083015283608083015260c060a0830152611eb460c083018461191b565b9897505050505050505056fea1",
  "64736f6c634300080f000a"]

def artifact : Artifact where
  name := Predeploy.messenger.name
  layout := layout.compact
  code := String.join codeLines

end ContractAtlas.Artifacts.Messenger
