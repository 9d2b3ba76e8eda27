/-!
# Names of characters: aliases

Further names: those of control characters, corrected names and abbreviations (Unicode 14), in the
form that `CharacterName` reads.
-/

namespace Assay.Text

/-- Further names of characters. -/
def aliasNames : String :=
  "=0aNUL=0dLaSOH=1bTART_OF_HEADINGjTEXT=2cXaEND_OF_TEXT=3bTXbND_OF_TRANSMISSION=4bOTbNQ=5dUIRYaA
    CK=6dNOWLEDGEbLERT=7aBELbACKSPACE=8bSaCHARACTER_TABULATION=9aHORIZONTAL_TABULATION=9bT=9aTABaE
    ND_OF_LINE=AbOL=AaLF=AbINE_FEED=AaNEW_LINE=AbLaLINE_TABULATION=BaVERTICAL_TABULATION=BbTaFF=Cb
    ORM_FEEDaCARRIAGE_RETURN=DbRaLOCKING-SHIFT_ONE=EaSHIFT_OUT=EbOaLOCKING-SHIFT_ZERO=FaSHIFT_IN=F
    bIaDATA_LINK_ESCAPE=10bLEbC1=11bEVICE_CONTROL_ONEbC2=12bEVICE_CONTROL_TWObC3=13bEVICE_CONTROL_
    THREEbC4=14bEVICE_CONTROL_FOURaNAK=15bEGATIVE_ACKNOWLEDGEaSYN=16dCHRONOUS_IDLEaEND_OF_TRANSMIS
    SION_BLOCK=17bTBaCAN=18dCELaEND_OF_MEDIUM=19bOMaSUB=1AdSTITUTEaESC=1BdAPEaFILE_SEPARATOR=1CbS=
    1CaINFORMATION_SEPARATOR_FOURaGROUP_SEPARATOR=1DbS=1DaINFORMATION_SEPARATOR_THREExWO=1EaRECORD
    _SEPARATOR=1EbSaINFORMATION_SEPARATOR_ONE=1FaUNIT_SEPARATOR=1FbSaSP=7FaDEL=7FdETEaPAD=80dDING_
    CHARACTERaHIGH_OCTET_PRESET=81bOPaBPH=82bREAK_PERMITTED_HEREaNBH=83bO_BREAK_HEREaIND=84dEXaNEL
    =85cXT_LINEaSSA=86bTART_OF_SELECTED_AREAaEND_OF_SELECTED_AREA=87bSAaCHARACTER_TABULATION_SET=8
    8aHORIZONTAL_TABULATION_SET=88bTSaCHARACTER_TABULATION_WITH_JUSTIFICATION=89aHORIZONTAL_TABULA
    TION_WITH_JUSTIFICATION=89bTJaLINE_TABULATION_SET=8AaVERTICAL_TABULATION_SET=8AbTSaPARTIAL_LIN
    E_DOWN=8BnFORWARD=8BbLDbARTIAL_LINE_BACKWARD=8CnUP=8CbLUaREVERSE_INDEX=8DiLINE_FEED=8DbIaSINGL
    E_SHIFT_TWO=8Eg-SHIFT-2=8EbS2bINGLE_SHIFT_THREE=8Fg-SHIFT-3=8FbS3aDCS=90bEVICE_CONTROL_STRINGa
    PRIVATE_USE_ONE=91l-1=91bU1bRIVATE_USE_TWO=92l-2=92bU2aSET_TRANSMIT_STATE=93bTSaCANCEL_CHARACT
    ER=94bCHaMESSAGE_WAITING=95bWaSPA=96bTART_OF_GUARDED_AREA=96jPROTECTED_AREAaEND_OF_GUARDED_ARE
    A=97hPROTECTED_AREA=97bPAaSOS=98bTART_OF_STRINGbGC=99bINGLE_GRAPHIC_CHARACTER_INTRODUCERbCI=9A
    bINGLE_CHARACTER_INTRODUCERaCONTROL_SEQUENCE_INTRODUCER=9BbSIaST=9CcRING_TERMINATORaOPERATING_
    SYSTEM_COMMAND=9DbSCaPM=9EbRIVACY_MESSAGEaAPC=9FcPLICATION_PROGRAM_COMMANDaNBSP=ADaSHY=1A2aLAT
    IN_CAPITAL_LETTER_GHAgSMALL_LETTER_GHA=34FaCGJ=61CaALM=709aSYRIAC_SUBLINEAR_COLON_SKEWED_LEFT=
    CDEaKANNADA_LETTER_LLLA=E9DaLAO_LETTER_FO_FON=E9FpAY=EA3lRO=EA5lLO=FD0aTIBETAN_MARK_BKA-_SHOG_
    GI_MGO_RGYAN=11ECaHANGUL_JONGSEONG_YESIEUNG-KIYEOKzbSSANGKIYEOKrSSANGYESIEUNGrYESIEUNG-KHIEUKH
    =180BaFVS1d2d3aMVSaFVS4=200BaZWSPcNJcJaLRMaRLM=202AaLREaRLEaPDFaLROaRLOaNNBSP=205FaMMSPaWJ=206
    6aLRIaRLIaFSIaPDI=2118aWEIERSTRASS_ELLIPTIC_FUNCTION=2448aMICR_ON_US_SYMBOLfDASH_SYMBOL=2B7AaL
    EFTWARDS_TRIANGLE-HEADED_ARROW_WITH_DOUBLE_VERTICAL_STROKE=2B7CaRIGHTWARDS_TRIANGLE-HEADED_ARR
    OW_WITH_DOUBLE_VERTICAL_STROKE=A015aYI_SYLLABLE_ITERATION_MARK=AA6EaMYANMAR_LETTER_KHAMTI_LLA=
    FE00aVS1c2c3c4c5c6c7c8c9c10d1d2d3d4d5d6=FE18aPRESENTATION_FORM_FOR_VERTICAL_RIGHT_WHITE_LENTIC
    ULAR_BRACKET=FEFFaBOM=FEFFbYTE_ORDER_MARK=FEFFaZWNBSP=122D4aCUNEIFORM_SIGN_NU11_TENUuOVER_NU11
    _BUR_OVER_BUR=16E56aMEDEFAIDRIN_CAPITAL_LETTER_HzcNG=16E76mSMALL_LETTER_HzNG=1B001aHENTAIGANA_
    LETTER_E-1=1D0C5aBYZANTINE_MUSICAL_SYMBOL_FTHORA_SKLIRON_CHROMA_VASIS=E0100aVS17d8d9c20d1d2d3d
    4d5d6d7d8d9c30d1d2d3d4d5d6d7d8d9c40d1d2d3d4d5d6d7d8d9c50d1d2d3d4d5d6d7d8d9c60d1d2d3d4d5d6d7d8d
    9c70d1d2d3d4d5d6d7d8d9c80d1d2d3d4d5d6d7d8d9c90d1d2d3d4d5d6d7d8d9c100e1e2e3e4e5e6e7e8e9d10e1e2e
    3e4e5e6e7e8e9d20e1e2e3e4e5e6e7e8e9d30e1e2e3e4e5e6e7e8e9d40e1e2e3e4e5e6e7e8e9d50e1e2e3e4e5e6e7e
    8e9d60e1e2e3e4e5e6e7e8e9d70e1e2e3e4e5e6e7e8e9d80e1e2e3e4e5e6e7e8e9d90e1e2e3e4e5e6e7e8e9c200e1e
    2e3e4e5e6e7e8e9d10e1e2e3e4e5e6e7e8e9d20e1e2e3e4e5e6e7e8e9d30e1e2e3e4e5e6e7e8e9d40e1e2e3e4e5e6e
    7e8e9d50e1e2e3e4e5e6"

end Assay.Text
